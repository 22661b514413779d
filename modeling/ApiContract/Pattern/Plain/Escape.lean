import ApiContract.Numeral.Digits
import ApiContract.Pattern.Plain.Scanner

/-!
# Pattern/Plain/Escape — what a backslash begins

Escapes of the plain grammar.  A digit after a backslash refers back to a group, which only the wide
grammar knows.
-/

namespace ApiContract.Pattern

open Scanner

/-- What an escape stands for. -/
inductive Escape where
  | char (c : Char)
  | item (i : ClassItem)
  | place (t : PlaceTest)

/-- The character of a code point. -/
def charOf? (n : Nat) : Option Char := if h : n.isValidChar then some (Char.ofNatAux n h) else none

/-- The character that some hexadecimal digits write. -/
def hexChar (digits : List Char) : Scanner Char :=
  match (digitsValue? 16 digits).bind charOf? with
  | some c => return c
  | none => deny .wrong

/-- The next `n` characters, blanks after each passed over. -/
def spacedTake : Nat → Scanner (List Char)
  | 0 => return []
  | n + 1 => do
    let c ← peek
    bumpSpace
    return c :: (← spacedTake n)

/-- The name in braces after the opening one. -/
def braced : Scanner (List Char) := do
  bumpSpace
  let text ← left
  let (name, rest) := spacedRun (← isSpaced) (· ≠ '\x7d') text.length text
  moveTo rest
  let _ ← peek
  return name

/-- The character of a hexadecimal escape at its letter: so many digits, or any number in braces. -/
def hexEscape (count : Nat) : Scanner Char := do
  bumpSpace
  if (← peek) = '\x7b' then
    let digits ← braced
    bumpSpace
    hexChar digits
  else hexChar (← spacedTake count)

/-- Split a text at the first place where another begins, which is left out. -/
def splitAt? (mark : List Char) : List Char → Option (List Char × List Char)
  | [] => none
  | c :: cs =>
    if mark.isPrefixOf (c :: cs) then some ([], (c :: cs).drop mark.length)
    else (splitAt? mark cs).map fun r => (c :: r.1, r.2)

/-- The property that a name in braces gives; a mark of inequality counts as one of equality. -/
def propertyName (name : List Char) : PropertyName :=
  match splitAt? ['!', '='] name, splitAt? [':'] name, splitAt? ['='] name with
  | some r, _, _ | none, some r, _ | none, none, some r => .valued r.1 r.2
  | none, none, none => .alone name

/-- The class of a property escape at its letter. -/
def propertyEscape : Scanner ClassItem := do
  let negated := (← peek) = 'P'
  bumpSpace
  let c ← peek
  if c = '\x7b' then
    let name ← braced
    bump
    return .property negated (propertyName name)
  else if c = '\\' then deny .wrong
  else
    bumpSpace
    return .property negated (.alone [c])

/-- The word boundaries by their names. -/
def boundaryNamed? (name : String) : Option PlaceTest :=
  match name with
  | "start" => some .wordStart
  | "end" => some .wordEnd
  | "start-half" => some .wordStartHalf
  | "end-half" => some .wordEndHalf
  | _ => none

/-- The word boundary after `\b`: one by a name in braces, unless they can hold no name. -/
def boundaryEscape : Scanner PlaceTest := do
  let text ← left
  let isNameChar (c : Char) : Bool := c.isAlpha || c = '-'
  if text.head? == some '\x7b' then
    let spaced ← isSpaced
    match passSpace spaced (text.drop 1) with
    | [] => deny .wrong
    | c :: rest =>
      if isNameChar c then
        let (name, rest) := spacedRun spaced isNameChar (rest.length + 1) (c :: rest)
        match rest, boundaryNamed? (String.ofList name) with
        | '\x7d' :: rest, some t => moveTo rest; return t
        | _, _ => deny .wrong
      else return .wordBoundary
  else return .wordBoundary

/-- The characters that are letters of the grammar. -/
def isMeta (c : Char) : Bool := "\\.+*?()|[]\x7b\x7d^$#&-~".toList.contains c

/-- Whether a character stands for itself after a backslash: any of ASCII but letters, digits and
angles. -/
def escapesItself (c : Char) : Bool := c.toNat < 0x80 && !c.isAlphanum && c ≠ '<' && c ≠ '>'

/-- The control characters that have a letter. -/
def controlNamed? : Char → Option Char
  | 'a' => some '\x07'
  | 'f' => some '\x0c'
  | 't' => some '\t'
  | 'n' => some '\n'
  | 'r' => some '\r'
  | 'v' => some '\x0b'
  | _ => none

/-- The conditions on a place that have a letter. -/
def placeNamed? : Char → Option PlaceTest
  | 'A' => some .textStart
  | 'z' => some .textEnd
  | 'B' => some .noWordBoundary
  | '<' => some .wordStart
  | '>' => some .wordEnd
  | _ => none

/-- Whether a letter stands for a class. -/
def isShorthand (c : Char) : Bool := "dswDSW".toList.contains c

/-- Note a shorthand class that has just been passed. -/
def noteShorthand (letter : Char) : Scanner Unit :=
  modify fun s => { s with shorthands := (s.text.length, letter) :: s.shorthands }

/-- An escape, from its backslash on. -/
def escape : Scanner Escape := do
  let start ← left
  bump
  let c ← peek
  if c.isDigit then deny .beyond
  else if c = 'x' then return .char (← hexEscape 2)
  else if c = 'u' then return .char (← hexEscape 4)
  else if c = 'U' then return .char (← hexEscape 8)
  else if c = 'p' || c = 'P' then return .item (← propertyEscape)
  else
    bump
    if isShorthand c then
      noteShorthand c
      return .item (.shorthand c)
    else if escapesItself c then return .char c
    else if c = 'b' then return .place (← boundaryEscape)
    else match controlNamed? c, placeNamed? c with
      | some d, _ => return .char d
      | none, some t => return .place t
      | none, none =>
        if c = 'c' && (← left).head?.any Char.isAlpha then deny (.control start.length)
        else deny .wrong

end ApiContract.Pattern
