import ApiContract.Pattern.Program

/-!
# Pattern/Machine — searching a text by a program

The search follows one way at a time and keeps the others for later, the latest one first.  It gives
up when it has come back too often or keeps too many ways.
-/

namespace ApiContract.Pattern

/-- Why a search is given up. -/
inductive SearchFault where
  | backtracks
  | ways
  deriving DecidableEq

/-- The wording of a fault. -/
def SearchFault.message : SearchFault → String
  | backtracks => "Error executing regex: Max limit for backtracking count exceeded"
  | ways => "Error executing regex: Max stack size exceeded for backtracking"

/-- How often a search may come back for another way. -/
def backtrackLimit : Nat := 1000000

/-- How many ways a search may keep. -/
def wayLimit : Nat := 1000000

/-- A way to go on: from a step and a place, with what the slots keep and the marks, the last one
first. -/
structure Way where
  address : Nat := 0
  place : Nat := 0
  slots : Array (Option Nat)
  marks : List Nat := []

namespace Way

/-- The way from the next step on. -/
def next (w : Way) : Way := { w with address := w.address + 1 }

/-- The way from the next step and another place on. -/
def nextAt (w : Way) (place : Nat) : Way := { w.next with place }

/-- The way from another step on. -/
def goto (w : Way) (address : Nat) : Way := { w with address }

/-- What a slot keeps. -/
def slot (w : Way) (i : Nat) : Option Nat := (w.slots[i]?).join

/-- The way with something else in a slot. -/
def keep (w : Way) (i : Nat) (n : Option Nat) : Way := { w with slots := w.slots.setIfInBounds i n }

/-- The way with so many groups from one on as a regular part has matched them. -/
def keepGroups (w : Way) (slots : List (Nat × Nat)) (first : Nat) : Nat → Way
  | 0 => w
  | n + 1 =>
    let w := w.keepGroups slots first n
    (w.keep (2 * (first + n)) (slots.lookup (2 * n + 2))).keep (2 * (first + n) + 1)
      (slots.lookup (2 * n + 3))

end Way

/-- What a step makes of a way. -/
inductive Outcome where
  | found
  | failed
  | go (w : Way)
  /-- Two ways, the first of which is preferred. -/
  | fork (first second : Way)

/-- One of two ways before the other one. -/
def Outcome.forkBy (first : Bool) (a b : Way) : Outcome := if first then fork a b else fork b a

/-- Go on if a condition holds. -/
def Outcome.goIf (condition : Bool) (w : Way) : Outcome := if condition then go w else failed

/-- Whether a text goes on with some characters at a place. -/
def goesOn (text : Array Char) (place : Nat) (cs : List Char) : Bool :=
  (text.extract place (place + cs.length)).toList == cs

/-- What a group has matched, as its first place and the one after its end. -/
def Way.group? (w : Way) (index : Nat) : Option (Nat × Nat) := do
  return (← w.slot (2 * index), ← w.slot (2 * index + 1))

/-- What a step makes of a way, if it has nothing to do with other ways. -/
def outcome (text : Array Char) (w : Way) : Step → Outcome
  | .done => .found
  | .any newLines => match text[w.place]? with
    | some c => .goIf (newLines || c ≠ '\n') (w.nextAt (w.place + 1))
    | none => .failed
  | .text cs => .goIf (goesOn text w.place cs) (w.nextAt (w.place + cs.length))
  | .place t => .goIf (passes text w.place t) w.next
  | .regular a first count => match a.match? text w.place with
    | some r => .go ((w.keepGroups r.slots first count).nextAt r.place)
    | none => .failed
  | .jump address => .go (w.goto address)
  | .split first second => .fork (w.goto first) (w.goto second)
  | .save slot => .go (w.keep slot (some w.place)).next
  | .restore slot => match w.slot slot with
    | some place => .go (w.nextAt place)
    | none => .failed
  | .clear slot => .go (w.keep slot (some 0)).next
  | .round least most counter out greedy =>
    let count := (w.slot counter).getD 0
    if some count = most then .go (w.goto out)
    else
      let counted := w.keep counter (some (count + 1))
      if count < least then .go counted.next else .forkBy greedy counted.next (counted.goto out)
  | .movingRound least counter check out greedy =>
    let count := (w.slot counter).getD 0
    if 0 < count && w.slot check == some w.place then .failed
    else
      let counted := w.keep counter (some (count + 1))
      if count < least then .go counted.next
      else
        let checked := counted.keep check (some w.place)
        .forkBy greedy checked.next (checked.goto out)
  | .back count => .goIf (count ≤ w.place) (w.nextAt (w.place - count))
  | .again index => match w.group? index with
    | some (first, last) =>
      let cs := (text.extract first last).toList
      .goIf (first ≤ last && goesOn text w.place cs) (w.nextAt (w.place + cs.length))
    | none => .failed
  | .reached index => .goIf (w.slot (2 * index)).isSome w.next
  | .origin => .goIf (w.place == 0) w.next
  | .mark | .cut | .forbid => .failed

/-- The ways from the one on that goes on at an address. -/
def dropTo (address : Nat) : List Way → List Way
  | [] => []
  | w :: ws => if w.address = address then ws else dropTo address ws

/-- **Follow a way and those kept for later**, which are given with their number; `backtracks`
counts how often the search has come back. -/
def follow (program : Array Step) (text : Array Char) :
    Nat → Nat → Way → List Way → Nat → Except SearchFault Bool
  | 0, _, _, _, _ => .error .backtracks
  | fuel + 1, backtracks, w, later, count =>
    let fail (later : List Way) (count : Nat) : Except SearchFault Bool :=
      match later with
      | [] => .ok false
      | w :: later =>
        if backtracks < backtrackLimit then
          follow program text fuel (backtracks + 1) w later (count - 1)
        else .error .backtracks
    match program[w.address]? with
    | none => .ok false
    | some .mark =>
      follow program text fuel backtracks { w.next with marks := count :: w.marks } later count
    | some .cut =>
      let kept := w.marks.headD 0
      follow program text fuel backtracks { w.next with marks := w.marks.drop 1 }
        (later.drop (count - kept)) (min count kept)
    | some .forbid =>
      let kept := dropTo (w.address + 1) later
      fail kept kept.length
    | some step => match outcome text w step with
      | .found => .ok true
      | .failed => fail later count
      | .go w => follow program text fuel backtracks w later count
      | .fork first second =>
        if count < wayLimit then
          follow program text fuel backtracks first (second :: later) (count + 1)
        else .error .ways

/-- The steps after which a search is taken to be endless. -/
def stepLimit : Nat := 1000000000000000

/-- **Search a text by a program.** -/
def Program.search (p : Program) (text : Array Char) : Except SearchFault Bool :=
  follow p.steps text stepLimit 0 { slots := Array.replicate p.slots none } [] 0

end ApiContract.Pattern
