import ApiContract.Pattern.Plain.Bracket
import ApiContract.Unicode.Letter

/-!
# Pattern/Plain/Reader — reading patterns of the plain grammar

`Plain.read` reads a whole text.  What is open is kept as frames, one for each group; whether blanks
count is known while reading, all other flags only mean something later.
-/

namespace ApiContract.Pattern

open Scanner

/-- What a group is for. -/
inductive GroupKind where
  /-- Its match is kept. -/
  | kept
  /-- It only holds together, with a change of flags in it. -/
  | enclosed (change : FlagChange)

/-- A group that is open: what it is for, whether blanks count around it, its alternatives before
the present one and the parts of that, the last one first. -/
structure Frame where
  kind : GroupKind := .kept
  spaced : Bool := false
  branches : List Plain := []
  parts : List Plain := []

namespace Frame

/-- The group with one more part. -/
def add (f : Frame) (p : Plain) : Frame := { f with parts := p :: f.parts }

/-- The group at the start of its next alternative. -/
def next (f : Frame) : Frame :=
  { f with branches := Plain.ofReversedParts f.parts :: f.branches, parts := [] }

/-- What the group holds. -/
def body (f : Frame) : Plain := Plain.ofReversedBranches f.next.branches

/-- The group as a part. -/
def close (f : Frame) : Plain :=
  match f.kind with
  | .kept => .group f.body
  | .enclosed change => .enclosed change f.body

/-- The group with its last part repeated, if it has one that can be. -/
def repeatLast? (f : Frame) (least : Nat) (most : Option Nat) (greedy : Bool) : Option Frame :=
  match f.parts with
  | [] | .flags _ :: _ => none
  | p :: parts => some { f with parts := .repeated p least most greedy :: parts }

end Frame

/-- Whether a character may stand in the name of a group. -/
def isGroupNameChar (isFirst : Bool) (c : Char) : Bool :=
  if isFirst then c = '_' || Unicode.isAlphabetic c
  else c = '_' || c = '.' || c = '[' || c = ']' || Unicode.isAlphanumeric c

/-- The name of a group up to the closing angle. -/
def groupName : Scanner Unit := do
  let text ← left
  let name := text.takeWhile (· ≠ '>')
  let isName := match name with
    | [] => false
    | c :: cs => isGroupNameChar true c && cs.all (isGroupNameChar false)
  if isName && name.length < text.length && !(← get).names.contains name then
    modify fun s => { s with text := text.drop (name.length + 1), names := name :: s.names }
  else deny .wrong

/-- The letters of flags up to a colon or a closing parenthesis, and the text from there on; `on` is
whether they are switched on and `seen` what stands before. -/
def readFlags? (on : Bool) (seen : List Char) : List Char → Option (FlagChange × List Char)
  | [] => none
  | c :: rest =>
    if c = ')' || c = ':' then
      if seen.head? == some '-' then none else some ([], c :: rest)
    else if seen.contains c then none
    else if c = '-' then readFlags? false (c :: seen) rest
    else if "imsUuxR".toList.contains c then
      (readFlags? on (c :: seen) rest).map fun r => ((c, on) :: r.1, r.2)
    else none

/-- The start of a group, from its parenthesis on: a change of flags for the rest of the group
around it, or a group. -/
def groupStart : Scanner (FlagChange ⊕ GroupKind) := do
  bumpSpace
  match ← left with
  | '?' :: '=' :: _ | '?' :: '!' :: _ | '?' :: '<' :: '=' :: _ | '?' :: '<' :: '!' :: _ =>
    deny .beyond
  | '?' :: 'P' :: '<' :: rest | '?' :: '<' :: rest =>
    moveTo rest
    groupName
    return .inr .kept
  | '?' :: rest => match readFlags? true [] rest with
    | some (change, ':' :: rest) =>
      moveTo rest
      return .inr (.enclosed change)
    | some (change, _ :: rest) =>
      moveTo rest
      if change.isEmpty then deny .wrong else return .inl change
    | _ => deny .wrong
  | _ => return .inr .kept

/-- Take over what a change of flags says about blanks. -/
def changeSpacing (change : FlagChange) : Scanner Unit :=
  modify fun s => { s with spaced := (change.lookup 'x').getD s.spaced }

/-- A number of at most 32 bits with blanks about it, none if there are no digits, and the text
after it. -/
def readCount (spaced : Bool) (text : List Char) : Except Refusal (Option Nat × List Char) :=
  let text := text.dropWhile Text.isBlank
  let (digits, rest) := spacedRun spaced Char.isDigit text.length text
  match digitsValue? 10 digits with
  | some n => if n < 0x100000000 then .ok (some n, rest.dropWhile Text.isBlank) else .error .wrong
  | none => .ok (none, rest.dropWhile Text.isBlank)

/-- The bounds of a repetition after its brace, and the text after it. -/
def readBounds (spaced : Bool) (text : List Char) : Except Refusal (Nat × Option Nat × List Char) :=
  do
  match ← readCount spaced (passSpace spaced text) with
  | (some n, '\x7d' :: rest) => return (n, some n, rest)
  | (some least, ',' :: more) => match passSpace spaced more with
    | '\x7d' :: rest => return (least, none, rest)
    | more => match ← readCount spaced more with
      | (some most, '\x7d' :: rest) =>
        if least ≤ most then return (least, some most, rest) else throw .wrong
      | _ => throw .wrong
  | _ => throw .wrong

/-- Pass over the sign that makes a repetition lazy. -/
def isGreedy : Scanner Bool := do
  match ← left with
  | '?' :: rest =>
    moveTo rest
    return false
  | _ => return true

/-- A part that is no group and no repetition. -/
def primitive : Scanner Plain := do
  match ← left with
  | '.' :: rest => moveTo rest; return .any
  | '^' :: rest => moveTo rest; return .lineStart
  | '$' :: rest => moveTo rest; return .lineEnd
  | '[' :: _ => return .item (← bracket)
  | '\\' :: next => match ← escape with
    | .char c =>
      if next.head? == some 'a' then modify fun s => { s with bell := true }
      return .char c
    | .item i => return .item i
    | .place t => return .place t
  | c :: rest => moveTo rest; return .char c
  | [] => deny .wrong

/-- The rest of a pattern; `outer` holds the groups around the present one, the innermost first. -/
def readParts : Nat → Frame → List Frame → Scanner Plain
  | 0, _, _ => deny .wrong
  | fuel + 1, here, outer => do
    skipSpace
    let repetition (least : Nat) (most : Option Nat) : Scanner Plain := do
      match here.repeatLast? least most (← isGreedy) with
      | some here => readParts fuel here outer
      | none => deny .wrong
    match ← left with
    | [] => if outer.isEmpty then return here.body else deny .wrong
    | '(' :: _ => match ← groupStart with
      | .inl change =>
        changeSpacing change
        readParts fuel (here.add (.flags change)) outer
      | .inr kind =>
        let frame : Frame := { kind, spaced := ← isSpaced }
        if let .enclosed change := kind then changeSpacing change
        readParts fuel frame (here :: outer)
    | ')' :: rest => match outer with
      | [] => deny .wrong
      | around :: outer =>
        set { ← get with text := rest, spaced := here.spaced }
        readParts fuel (around.add here.close) outer
    | '|' :: rest =>
      moveTo rest
      readParts fuel here.next outer
    | '?' :: rest => moveTo rest; repetition 0 (some 1)
    | '*' :: rest => moveTo rest; repetition 0 none
    | '+' :: rest => moveTo rest; repetition 1 none
    | '\x7b' :: rest =>
      if here.parts.isEmpty then deny .wrong
      let (least, most, rest) ← readBounds (← isSpaced) rest
      moveToNext rest
      repetition least most
    | _ => readParts fuel (here.add (← primitive)) outer

/-- **Read a text by the plain grammar**: the pattern, and what was noted on the way. -/
def Plain.read (text : List Char) : Except Refusal (Plain × Scan) := do
  let (p, s) ← (readParts (text.length + 1) {} []).run { text }
  if p.depth ≤ depthLimit then return (p, s) else throw .wrong

end ApiContract.Pattern
