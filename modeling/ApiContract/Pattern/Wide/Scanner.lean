import ApiContract.Pattern.Regular.Basic
import ApiContract.Pattern.Wide.Basic
import ApiContract.Unicode.Letter

/-!
# Pattern/Wide/Scanner — the text of a wide pattern as it is read

A change of flags holds up to the end of the group that makes it, if that group only holds together;
it outlasts all other groups.
-/

namespace ApiContract.Pattern

/-- The flags in force while a wide pattern is read. -/
structure WideFlags extends Flags where
  /-- Whether blanks do not count. -/
  spaced : Bool := false

/-- What has been read of a wide pattern and what is left. -/
structure WideScan where
  text : List Char
  /-- The bytes of the whole text. -/
  size : Nat
  flags : WideFlags := {}
  /-- The number of groups so far. -/
  groups : Nat := 0
  /-- The groups that have names, the last one first. -/
  names : List (List Char × Nat) := []
  /-- Whether a group is referred to by its number. -/
  numbered : Bool := false

/-- A step of reading. -/
abbrev WideScanner := StateT WideScan Option

/-- The text after a comment in parentheses, from within it. -/
def afterComment? : List Char → Option (List Char)
  | [] => none
  | ')' :: rest => some rest
  | '\\' :: _ :: rest => afterComment? rest
  | _ :: rest => afterComment? rest

/-- The text after blanks and comments, unless a comment does not end. -/
def afterSpace? (spaced : Bool) : Nat → List Char → Option (List Char)
  | 0, text => some text
  | fuel + 1, text => match text with
    | '(' :: '?' :: '#' :: rest => (afterComment? rest).bind (afterSpace? spaced fuel)
    | c :: rest =>
      if !spaced then some text
      else if c = '#' then afterSpace? spaced fuel ((rest.dropWhile (· ≠ '\n')).drop 1)
      else if c = ' ' || c = '\t' || c = '\r' || c = '\n' then afterSpace? spaced fuel rest
      else some text
    | [] => some []

namespace WideScanner

/-- Refuse the text. -/
def deny {α : Type} : WideScanner α := fun _ => none

/-- The text that is left. -/
def left : WideScanner (List Char) := return (← get).text

/-- The flags in force. -/
def flags : WideScanner WideFlags := return (← get).flags

/-- Go on at a text. -/
def moveTo (text : List Char) : WideScanner Unit := modify fun s => { s with text }

/-- Pass over blanks and comments. -/
def skipSpace : WideScanner Unit := do
  let text ← left
  match afterSpace? (← flags).spaced text.length text with
  | some rest => moveTo rest
  | none => deny

/-- Pass over the parenthesis that closes a group, and the blanks before it. -/
def closeGroup : WideScanner Unit := do
  skipSpace
  match ← left with
  | ')' :: rest => moveTo rest
  | _ => deny

/-- Begin one more group. -/
def openGroup : WideScanner Nat := do
  let index := (← get).groups + 1
  modify fun s => { s with groups := index }
  return index

end WideScanner

/-! ## References -/

open WideScanner

/-- Whether a character may stand in a name. -/
def isNameChar (c : Char) : Bool := c = '_' || Unicode.isAlphanumeric c

/-- A name and its closing mark, and the text after them; in front of a name that may be relative a
hyphen is allowed. -/
def readName? (close : Char) (relative : Bool) (text : List Char) :
    Option (List Char × List Char) :=
  let (sign, body) := match relative, text with
    | true, '-' :: rest => (['-'], rest)
    | _, _ => ([], text)
  let letters := body.takeWhile isNameChar
  let name := sign ++ letters
  match body.drop letters.length with
  | c :: rest => if c = close && !name.isEmpty then some (name, rest) else none
  | [] => none

/-- The group that a name refers to after so many groups: by its name, its number, or counted back
from the last one. -/
def groupOf? (names : List (List Char × Nat)) (groups : Nat) (name : List Char) : Option Nat :=
  match names.lookup name, name with
  | some n, _ => some n
  | none, '-' :: digits =>
    (digitsValue? 10 digits).bind fun n =>
      if n = 0 then some 0 else if n ≤ groups + 1 then some (groups + 1 - n) else none
  | none, digits =>
    (digitsValue? 10 digits).bind fun n => if n < 0x8000000000000000 then some n else none

/-- A reference by a name up to its closing mark. -/
def nameReference (close : Char) (relative : Bool) : WideScanner Nat := do
  let s ← get
  match readName? close relative s.text with
  | some (name, rest) => match groupOf? s.names s.groups name with
    | some n => moveTo rest; return n
    | none => deny
  | none => deny

/-- A reference by a number, which may not be greater than half the bytes of the text. -/
def numberReference : WideScanner Nat := do
  let s ← get
  let digits := s.text.takeWhile Char.isDigit
  match digitsValue? 10 digits with
  | some n =>
    if n < s.size / 2 then
      set { s with text := s.text.drop digits.length, numbered := true }
      return n
    else deny
  | none => deny

/-! ## Escapes and classes -/

/-- The characters that are written by a letter after a backslash, with the backspace of classes. -/
def wideControl? (c : Char) : Option Char :=
  match c with
  | 'e' => some '\x1b'
  | 'b' => some '\x08'
  | c => controlNamed? c

/-- The class of a property escape at its letter, as it is written. -/
def propertyText? (text : List Char) : Option (List Char × List Char) :=
  match text with
  | p :: '\x7b' :: rest =>
    let name := rest.takeWhile (· ≠ '\x7d')
    match rest.drop name.length with
    | close :: rest => some (['\\', p, '\x7b'] ++ name ++ [close], rest)
    | [] => none
  | p :: c :: rest => some (['\\', p, c], rest)
  | _ => none

/-- The code point of a hexadecimal escape after its letter: so many digits, or one to eight in
braces. -/
def hexText? (count : Nat) (text : List Char) : Option (List Char × List Char) :=
  let isHex (c : Char) : Bool := (hexValue? c).isSome
  let digits := text.take count
  if digits.length = count && digits.all isHex then some (digits, text.drop count)
  else match text with
    | '\x7b' :: rest =>
      let digits := rest.takeWhile isHex
      match rest.drop digits.length with
      | '\x7d' :: rest =>
        if 1 ≤ digits.length && digits.length ≤ 8 then some (digits, rest) else none
      | _ => none
    | _ => none

/-- A character given by a hexadecimal escape after its letter. -/
def wideHex (count : Nat) : WideScanner Wide := do
  match hexText? count (← left) with
  | some (digits, rest) => match (digitsValue? 16 digits).bind charOf? with
    | some c =>
      moveTo rest
      return .char c (← flags).anyCase
    | none => deny
  | none => deny

/-- A condition on a place at its letter; none of them goes on with a brace. -/
def widePlace? (text : List Char) : Option PlaceTest :=
  match text with
  | 'b' :: '\x7b' :: _ | 'B' :: '\x7b' :: _ => none
  | 'b' :: _ => some .wordBoundary
  | c :: _ => placeNamed? c
  | [] => none

/-- An escape that means the same in and outside of classes, after its backslash. -/
def classEscape : WideScanner Wide := do
  let anyCase := (← flags).anyCase
  match ← left with
  | [] => deny
  | c :: rest =>
    if isShorthand c then
      moveTo rest
      return .one ['\\', c] anyCase
    else if c = 'h' || c = 'H' then
      moveTo rest
      return .one (if c = 'h' then "[0-9A-Fa-f]".toList else "[^0-9A-Fa-f]".toList) false
    else if c = 'x' then moveTo rest; wideHex 2
    else if c = 'u' then moveTo rest; wideHex 4
    else if c = 'U' then moveTo rest; wideHex 8
    else if c = 'p' || c = 'P' then match propertyText? (c :: rest) with
      | some (text, rest) =>
        moveTo rest
        return .one text anyCase
      | none => deny
    else
      moveTo rest
      match wideControl? c with
      | some d => return .char d false
      | none => if c.isAlpha && !"kAzBGK".toList.contains c then deny else return .char c false

/-- An escape after its backslash. -/
def wideEscape : WideScanner Wide := do
  match ← left with
  | [] => deny
  | c :: rest =>
    if c.isDigit then return .again (← numberReference)
    else if c = 'k' then match rest with
      | '\'' :: rest => moveTo rest; return .again (← nameReference '\'' true)
      | '<' :: rest => moveTo rest; return .again (← nameReference '>' true)
      | _ => deny
    else if "AzbB<>".toList.contains c then match widePlace? (c :: rest) with
      | some t => moveTo rest; return .place t
      | none => deny
    else if c = 'K' then moveTo rest; return .restart
    else if c = 'G' then moveTo rest; return .origin
    else classEscape

/-- A character as it is written to stand for itself in a class. -/
def quotedInClass (c : Char) : List Char := if isMeta c then ['\\', c] else [c]

/-- The rest of a class with so many brackets open, as the plain grammar writes it. -/
def classText : Nat → Nat → WideScanner (List Char)
  | 0, _ => deny
  | fuel + 1, nesting => do
    match ← left with
    | '\\' :: rest =>
      moveTo rest
      if rest.head?.any Char.isDigit then deny
      let text ← match ← classEscape with
        | .char c _ => pure (quotedInClass c)
        | .one text _ => pure text
        | _ => deny
      return text ++ (← classText fuel nesting)
    | '[' :: rest =>
      moveTo rest
      return '[' :: (← classText fuel (nesting + 1))
    | ']' :: rest =>
      moveTo rest
      if nesting = 1 then return [']'] else return ']' :: (← classText fuel (nesting - 1))
    | c :: rest =>
      moveTo rest
      return c :: (← classText fuel nesting)
    | [] => deny

/-- A class, from after its bracket on. -/
def wideClass : WideScanner Wide := do
  let text ← left
  let (start, rest) := match text with
    | '^' :: ']' :: rest => (['^', ']'], rest)
    | '^' :: rest => (['^'], rest)
    | ']' :: rest => ([']'], rest)
    | rest => ([], rest)
  moveTo rest
  let text ← classText (rest.length + 1) 1
  return .one ('[' :: start ++ text) (← flags).anyCase

/-! ## Flags and repetitions -/

/-- The flags after a letter, switched on or off. -/
def WideFlags.set? (f : WideFlags) (letter : Char) (on : Bool) : Option WideFlags :=
  if letter = 'x' then some { f with spaced := on }
  else if "imsuU".toList.contains letter then
    (f.toFlags.set? letter on).map fun g => { f with toFlags := g }
  else none

/-- The bounds of a repetition after its brace, and the text after it. -/
def wideBounds? (spaced : Bool) (text : List Char) : Option (Nat × Option Nat × List Char) := do
  let space (text : List Char) : Option (List Char) := afterSpace? spaced text.length text
  let text ← space text
  let (least, rest) ← if text.head? == some ',' then pure (0, text) else count text
  let rest ← space rest
  match rest with
  | '\x7d' :: rest => return (least, some least, rest)
  | ',' :: rest =>
    let rest ← space rest
    let (most, rest) := match count rest with
      | some (n, rest) => (if n = 0xffffffffffffffff then none else some n, rest)
      | none => (none, rest)
    match ← space rest with
    | '\x7d' :: rest => return (least, most, rest)
    | _ => none
  | _ => none
where
  /-- A number of at most 64 bits, and the text after it. -/
  count (text : List Char) : Option (Nat × List Char) :=
    let digits := text.takeWhile Char.isDigit
    (digitsValue? 10 digits).bind fun n =>
      if n < 0x10000000000000000 then some (n, text.drop digits.length) else none

/-- The bounds of the repetition that a text begins with, and the text after them. -/
def repetition? (spaced : Bool) (text : List Char) : Option (Nat × Option Nat × List Char) :=
  match text with
  | '?' :: rest => some (0, some 1, rest)
  | '*' :: rest => some (0, none, rest)
  | '+' :: rest => some (1, none, rest)
  | '\x7b' :: rest => wideBounds? spaced rest
  | _ => none

/-- Whether a repetition may follow a pattern. -/
def Wide.isRepeatable : Wide → Bool
  | empty | place _ | ahead _ _ | behind _ _ => false
  | _ => true

end ApiContract.Pattern
