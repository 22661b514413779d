import ApiContract.Unicode.Direction
import ApiContract.Unicode.Joining
import ApiContract.Url.Address
import ApiContract.Url.Name.Mapping
import ApiContract.Url.Name.Punycode

/-!
# Url/Name/Label — the labels of a name

A label must not begin with a mark, may hold joiners only where they make a difference, and in names
with letters written from the right must be written in one direction.
-/

namespace ApiContract.Url

open Unicode

/-- A label: what it stands for, by code points, and what is written for it. -/
structure Label where
  codes : List Nat
  text : List Char

/-- The characters of a code text. -/
def charsOf (codes : List Nat) : List Char := codes.map Char.ofNat

/-- Whether all characters are ASCII. -/
def isAscii (codes : List Nat) : Bool := codes.all (· < 0x80)

/-- The longest labels that are written and read in ASCII. -/
def writeLimit : Nat := 1000

@[inherit_doc writeLimit]
def readLimit : Nat := 2000

/-- The label of a name.  One that begins with `xn--` must stand for some that is not ASCII and is a
name by itself. -/
def Label.read? (codes : List Nat) : Option Label :=
  match charsOf codes with
  | 'x' :: 'n' :: '-' :: '-' :: rest =>
    if isAscii codes && rest.length ≤ readLimit then
      (punycode? rest).bind fun meant =>
        if !isAscii meant && meant.all Nat.isValidChar && nameOf? meant == some meant then
          some ⟨meant, charsOf codes⟩
        else none
    else none
  | chars =>
    if isAscii codes then some ⟨codes, chars⟩
    else if codes.length ≤ writeLimit then some ⟨codes, ['x', 'n', '-', '-'] ++ writePunycode codes⟩
    else none

/-! ## Joiners -/

/-- The type of the first letter that is not looked through. -/
def firstJoining (codes : List Nat) : String :=
  (((codes.map joiningType).dropWhile (· == "T")).head?).getD "U"

/-- Whether what stands before a joiner, the last character first, ends with one that joins
consonants. -/
def followsVirama (before : List Nat) : Bool :=
  before.head?.any fun n => combiningClass n == viramaClass

/-- Whether a separating joiner keeps two letters apart that would join. -/
def separates (before after : List Nat) : Bool :=
  ["L", "D"].contains (firstJoining before) && ["R", "D"].contains (firstJoining after)

/-- Whether joiners stand where they may; `before` holds what comes before, the last character
first. -/
def joinersFit (before : List Nat) : List Nat → Bool
  | [] => true
  | n :: after =>
    (if n = 0x200C then followsVirama before || separates before after
      else n != 0x200D || followsVirama before) && joinersFit (n :: before) after

/-! ## Direction -/

/-- Whether a character is written from the right. -/
def isFromRight (n : Nat) : Bool :=
  match direction n with
  | .right | .arabicLetter | .arabicNumber => true
  | _ => false

/-- Whether a label keeps to one direction, which its first character sets; the marks at its end are
not looked at. -/
def isOneWay (codes : List Nat) : Bool :=
  match codes.map direction with
  | [] => true
  | first :: rest =>
    let counted := (rest.reverse.dropWhile (· == .mark)).reverse
    let last := counted.getLast?
    match first with
    | .left =>
      last.all (fun d => d == .left || d == .europeanNumber)
        && counted.all fun d => d != .right && d != .arabicLetter && d != .arabicNumber
    | .right | .arabicLetter =>
      last.all (fun d => d != .left && d != .neutral && d != .mark) && !counted.contains .left
        && !(counted.contains .europeanNumber && counted.contains .arabicNumber)
    | _ => false

/-- Whether labels make up a name. -/
def areLabels (labels : List Label) : Bool :=
  labels.all (fun l => isAscii l.codes || (!l.codes.head?.any isMark && joinersFit [] l.codes)) &&
    (!(labels.any fun l => l.codes.any isFromRight) || labels.all fun l => isOneWay l.codes)

/-- What the name of a host cannot hold. -/
def isForbidden (n : Nat) : Bool :=
  n ≤ 0x20 || n = 0x7F || ("%#/:<>?@[\\]^|".toList.map Char.toNat).contains n

/-- **The name of a host as it is written in ASCII**, if a text is one. -/
def domain? (text : List Char) : Option (List Char) := do
  let codes ← nameOf? (text.map Char.toNat)
  if codes.any isForbidden then none
  let labels ← (splitOn '.'.toNat codes).mapM Label.read?
  if areLabels labels then return ['.'].intercalate (labels.map (·.text)) else none

end ApiContract.Url
