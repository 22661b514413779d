import ApiContract.Pattern.Plain.Escape

/-!
# Pattern/Plain/Bracket — classes in brackets

A class lists characters, ranges and other classes, and may combine what stands on the two sides of
an operator; operators group to the left.
-/

namespace ApiContract.Pattern

open Scanner

/-- The classes of ASCII that have a name in brackets and colons. -/
def asciiClass? (name : String) : Option CodeRanges :=
  match name with
  | "alnum" => some [(0x30, 0x39), (0x41, 0x5A), (0x61, 0x7A)]
  | "alpha" => some [(0x41, 0x5A), (0x61, 0x7A)]
  | "ascii" => some [(0x00, 0x7F)]
  | "blank" => some [(0x09, 0x09), (0x20, 0x20)]
  | "cntrl" => some [(0x00, 0x1F), (0x7F, 0x7F)]
  | "digit" => some [(0x30, 0x39)]
  | "graph" => some [(0x21, 0x7E)]
  | "lower" => some [(0x61, 0x7A)]
  | "print" => some [(0x20, 0x7E)]
  | "punct" => some [(0x21, 0x2F), (0x3A, 0x40), (0x5B, 0x60), (0x7B, 0x7E)]
  | "space" => some [(0x09, 0x0D), (0x20, 0x20)]
  | "upper" => some [(0x41, 0x5A)]
  | "word" => some [(0x30, 0x39), (0x41, 0x5A), (0x5F, 0x5F), (0x61, 0x7A)]
  | "xdigit" => some [(0x30, 0x39), (0x41, 0x46), (0x61, 0x66)]
  | _ => none

/-- A class of ASCII by its name, after the opening bracket, and the text after it. -/
def namedClass? (text : List Char) : Option (ClassItem × List Char) :=
  match text with
  | ':' :: text =>
    let (negated, body) := match text with
      | '^' :: cs => (true, cs)
      | cs => (false, cs)
    let name := body.takeWhile (· ≠ ':')
    match body.drop name.length with
    | ':' :: ']' :: rest => (asciiClass? (String.ofList name)).map fun r => (.named negated r, rest)
    | _ => none
  | _ => none

/-- A class whose closing bracket has not been reached. -/
structure OpenClass where
  negated : Bool
  /-- The operation whose right side is being read, and its left side. -/
  pending : Option (SetOperation × ClassItem) := none
  /-- The items since the last operator, the last one first. -/
  items : List ClassItem := []

namespace OpenClass

/-- The class with one more item. -/
def add (c : OpenClass) (item : ClassItem) : OpenClass := { c with items := item :: c.items }

/-- What the class holds so far. -/
def content (c : OpenClass) : ClassItem :=
  let items := ClassItem.ofReversed c.items
  match c.pending with
  | some (op, a) => .operation op a items
  | none => items

/-- The class after an operator. -/
def operate (c : OpenClass) (op : SetOperation) : OpenClass :=
  { c with pending := some (op, c.content), items := [] }

end OpenClass

/-- The start of a class, from its bracket on: hyphens in front stand for themselves, and so does a
closing bracket in front. -/
def openBracket : Scanner OpenClass := do
  bumpSpace
  let negated := (← peek) = '^'
  if negated then bumpSpace
  let text ← left
  let (hyphens, rest) := spacedRun (← isSpaced) (· = '-') text.length text
  moveTo rest
  let c ← peek
  if hyphens.isEmpty && c = ']' then
    bumpSpace
    let _ ← peek
    return { negated, items := [.range ']' ']'] }
  else return { negated, items := hyphens.map fun h => .range h h }

/-- A character or an escape in a class. -/
def classAtom : Scanner (Char ⊕ ClassItem) := do
  let c ← peek
  if c = '\\' then match ← escape with
    | .char d => return .inl d
    | .item i => return .inr i
    | .place _ => deny .wrong
  else
    bump
    return .inl c

/-- What a character or an escape is as an item. -/
def atomItem : Char ⊕ ClassItem → ClassItem
  | .inl c => .range c c
  | .inr i => i

/-- An item of a class, or a range of two characters. -/
def classRange : Scanner ClassItem := do
  let first ← classAtom
  skipSpace
  let c ← peek
  let ahead := peekPast (← isSpaced) (← left)
  if c ≠ '-' || ahead == some ']' || ahead == some '-' then return atomItem first
  else
    bumpSpace
    match first, ← classAtom with
    | .inl a, .inl b => if a ≤ b then return .range a b else deny .wrong
    | _, _ => deny .wrong

/-- The rest of a class; `outer` holds the classes it stands in, the innermost first. -/
def readClass : Nat → OpenClass → List OpenClass → Scanner ClassItem
  | 0, _, _ => deny .wrong
  | fuel + 1, here, outer => do
    skipSpace
    match ← left with
    | ']' :: rest =>
      moveTo rest
      let item := ClassItem.bracket here.negated here.content
      match outer with
      | [] => return item
      | around :: outer => readClass fuel (around.add item) outer
    | '[' :: more => match namedClass? more with
      | some (item, rest) =>
        moveTo rest
        readClass fuel (here.add item) outer
      | none => readClass fuel (← openBracket) (here :: outer)
    | '&' :: '&' :: rest =>
      moveTo rest
      readClass fuel (here.operate .intersection) outer
    | '-' :: '-' :: rest =>
      moveTo rest
      readClass fuel (here.operate .difference) outer
    | '~' :: '~' :: rest =>
      moveTo rest
      readClass fuel (here.operate .symmetricDifference) outer
    | _ => readClass fuel (here.add (← classRange)) outer

/-- A class, from its bracket on. -/
def bracket : Scanner ClassItem := do
  let text ← left
  readClass text.length (← openBracket) []

end ApiContract.Pattern
