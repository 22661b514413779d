import ApiContract.Pattern.Wide.Scanner

/-!
# Pattern/Wide/Reader — reading patterns of the wide grammar

`Wide.read?` reads a whole text.  Alternatives are read as rows of parts, and a part as a piece of
text with the sign of a repetition after it.
-/

namespace ApiContract.Pattern

/-- How deep groups may be nested, and one more. -/
def nestingLimit : Nat := 64

/-- What begins after the parenthesis of a group. -/
inductive WideOpening where
  | kept
  | settled
  | ahead (negated : Bool)
  | behind (negated : Bool)
  | reference
  | condition
  | flags
  deriving DecidableEq

namespace WideScanner

/-- A name in angles for a group that begins. -/
def nameGroup (text : List Char) : WideScanner Unit := do
  let index ← openGroup
  match readName? '>' false text with
  | some (name, rest) => modify fun s => { s with text := rest, names := (name, index) :: s.names }
  | none => deny

/-- What a group is for, from after its parenthesis on. -/
def opening : WideScanner WideOpening := do
  skipSpace
  match ← left with
  | '?' :: '=' :: rest => moveTo rest; return .ahead false
  | '?' :: '!' :: rest => moveTo rest; return .ahead true
  | '?' :: '<' :: '=' :: rest => moveTo rest; return .behind false
  | '?' :: '<' :: '!' :: rest => moveTo rest; return .behind true
  | '?' :: '<' :: rest => nameGroup rest; return .kept
  | '?' :: 'P' :: '<' :: rest => nameGroup rest; return .kept
  | '?' :: 'P' :: '=' :: rest => moveTo rest; return .reference
  | '?' :: '>' :: rest => moveTo rest; return .settled
  | '?' :: '(' :: rest => moveTo rest; return .condition
  | '?' :: rest => moveTo rest; return .flags
  | _ => let _ ← openGroup; return .kept

/-- Change flags up to the parenthesis or the colon after them, and tell whether it is the colon;
`start` is how many characters were left before the first of them. -/
def changeFlags (start : Nat) : Nat → Bool → WideScanner Bool
  | 0, _ => deny
  | fuel + 1, on => do
    skipSpace
    match ← left with
    | [] => deny
    | c :: rest =>
      let before := start - (rest.length + 1)
      let onlyHyphen := !on && before = 1
      if c = ')' then
        if before = 0 || onlyHyphen then deny
        moveTo rest
        return false
      else if c = ':' then
        if onlyHyphen then deny
        moveTo rest
        return true
      else
        moveTo rest
        if c = '-' then if on then changeFlags start fuel false else deny
        else match (← flags).set? c on with
          | some f =>
            modify fun s => { s with flags := f }
            changeFlags start fuel on
          | none => deny

/-- A condition by a reference, if it is one. -/
def referenceCondition? : WideScanner (Option Nat) := do
  match ← left with
  | [] => deny
  | c :: rest =>
    if c.isDigit then return some (← numberReference)
    else if c = '\'' then moveTo rest; return some (← nameReference '\'' true)
    else if c = '<' then moveTo rest; return some (← nameReference '>' true)
    else return none

end WideScanner

/-- The choice that a condition makes between the first of some alternatives and the others. -/
def Wide.choiceBy (condition body : Wide) : Wide :=
  let condition := match condition with
    | again n => reached n
    | c => c
  let (yes, no) := match body with
    | alternation (p :: ps) => match ps with
      | [q] => (p, q)
      | ps => (p, alternation ps)
    | p => (p, empty)
  if yes.isEmpty && no.isEmpty then condition else conditional condition yes no

/-- Whether a pattern is a reference to a group. -/
def Wide.isReference : Wide → Bool
  | again _ => true
  | _ => false

/-- The pattern that some parts make, each to the left of the ones before it. -/
def Wide.ofReversedParts : List Wide → Wide
  | [] => empty
  | [p] => p
  | ps => sequence ps.reverse

open WideScanner

mutual

/-- Alternatives. -/
def readAlternatives (fuel depth : Nat) : WideScanner Wide := do
  match fuel with
  | 0 => deny
  | fuel + 1 =>
    let first ← readRow fuel depth []
    skipSpace
    if (← left).head? == some '|' then return .alternation (first :: (← readMore fuel depth))
    else
      let s ← get
      if s.numbered && !s.names.isEmpty then deny
      return first

/-- Alternatives, each after a bar. -/
def readMore (fuel depth : Nat) : WideScanner (List Wide) := do
  match fuel with
  | 0 => deny
  | fuel + 1 =>
    match ← left with
    | '|' :: rest =>
      moveTo rest
      let p ← readRow fuel depth []
      skipSpace
      return p :: (← readMore fuel depth)
    | _ => return []

/-- Parts in a row, after the ones before them, the last one first. -/
def readRow (fuel depth : Nat) (before : List Wide) : WideScanner Wide := do
  match fuel with
  | 0 => deny
  | fuel + 1 =>
    let count := (← left).length
    if count = 0 then return .ofReversedParts before
    let p ← readPart fuel depth
    if (← left).length = count then return .ofReversedParts before
    else readRow fuel depth (if p.isEmpty then before else p :: before)

/-- A part with the sign of a repetition after it, if there is one. -/
def readPart (fuel depth : Nat) : WideScanner Wide := do
  match fuel with
  | 0 => deny
  | fuel + 1 =>
    let p ← readPiece fuel depth
    skipSpace
    match repetition? (← flags).spaced (← left) with
    | none => return p
    | some (least, most, rest) =>
      if !p.isRepeatable then deny
      moveTo rest
      skipSpace
      let lazy := (← left).head? == some '?'
      if lazy then moveTo ((← left).drop 1)
      let repeated := Wide.repeated p least most (lazy == (← flags).lazyFirst)
      match ← left with
      | '+' :: rest => moveTo rest; return .settled repeated
      | _ => return repeated

/-- A part without the sign of a repetition after it. -/
def readPiece (fuel depth : Nat) : WideScanner Wide := do
  match fuel with
  | 0 => deny
  | fuel + 1 =>
    skipSpace
    let f ← flags
    match ← left with
    | [] => return .empty
    | '.' :: rest => moveTo rest; return .any f.newLines
    | '^' :: rest => moveTo rest; return .place (if f.lines then .lineStart else .textStart)
    | '$' :: rest => moveTo rest; return .place (if f.lines then .lineEnd else .textEnd)
    | '(' :: rest =>
      moveTo rest
      if nestingLimit ≤ depth + 1 then deny
      readGroup fuel (depth + 1)
    | '\\' :: rest => moveTo rest; wideEscape
    | '[' :: rest => moveTo rest; wideClass
    | c :: rest =>
      if "+*?|)".toList.contains c then return .empty
      moveTo rest
      return .char c f.anyCase

/-- A group, from after its parenthesis on. -/
def readGroup (fuel depth : Nat) : WideScanner Wide := do
  match fuel with
  | 0 => deny
  | fuel + 1 =>
    let closed : WideScanner Wide := do
      let p ← readAlternatives fuel depth
      closeGroup
      return p
    match ← opening with
    | .kept => return .group (← closed)
    | .settled => return .settled (← closed)
    | .ahead negated => return .ahead negated (← closed)
    | .behind negated => return .behind negated (← closed)
    | .reference => return .again (← nameReference ')' false)
    | .flags =>
      let outer ← flags
      let text ← left
      if ← changeFlags text.length (text.length + 1) true then
        let p ← readAlternatives fuel depth
        match ← left with
        | _ :: rest =>
          modify fun s => { s with text := rest, flags := outer }
          return p
        | [] => deny
      else return .empty
    | .condition =>
      let condition ← match ← referenceCondition? with
        | some n => pure (.again n)
        | none => readAlternatives fuel depth
      closeGroup
      let count := (← left).length
      let body ← readAlternatives fuel depth
      if (← left).length = count && !condition.isReference then deny
      closeGroup
      return condition.choiceBy body

end

/-- **Read a text by the wide grammar.** -/
def Wide.read? (text : String) : Option Wide := do
  let chars := text.toList
  let (p, s) ← (readAlternatives (8 * chars.length + 8) 0).run
    { text := chars, size := text.utf8ByteSize }
  if s.text.isEmpty then some p else none

end ApiContract.Pattern
