import Std.Data.HashSet
import ApiContract.Pattern.Regular.Size

/-!
# Pattern/Regular/Automaton — the match of a regular pattern that is preferred

Of the matches at one place the preferred one takes the first alternative that leads to a match, and
the most or the fewest rounds of a repetition.  It is found by an automaton that never comes to one
state at one place twice.
-/

namespace ApiContract.Pattern

/-- A state of an automaton; most lead on to the one after them. -/
inductive State where
  | one (s : CharClass)
  | place (t : PlaceTest)
  | save (slot : Nat)
  | jump (address : Nat)
  /-- Two ways on, the first of which is preferred. -/
  | fork (first second : Nat)

/-- The two ways of a repetition, another round and the way out. -/
def State.forkBy (greedy : Bool) (round out : Nat) : State :=
  if greedy then fork round out else fork out round

/-- So many automata in a row, from an address on, each with so many states. -/
def statesInRow (count length : Nat) (states : Nat → List State) (base : Nat) : List State :=
  (List.range count).flatMap fun i => states (base + i * length)

/-- The states of a repetition, from an address on; `isSolid` is whether a round never matches the
empty text. -/
def repeatedStates (isSolid : Bool) (least : Nat) (most : Option Nat) (greedy : Bool)
    (states : Nat → List State) (base : Nat) : List State :=
  let length := (states base).length
  match least, most with
  | 0, none =>
    let start := State.forkBy greedy (base + 1) (base + length + 2) :: states (base + 1)
    if isSolid then start ++ [.jump base]
    else start ++ [.forkBy greedy (base + 1) (base + length + 2)]
  | n + 1, none =>
    let last := base + n * length
    statesInRow (n + 1) length states base ++ [.forkBy greedy last (last + length + 1)]
  | least, some most =>
    let further := base + least * length
    let out := further + (most - least) * (length + 1)
    statesInRow least length states base ++
      statesInRow (most - least) (length + 1)
        (fun base => .forkBy greedy (base + 1) out :: states (base + 1)) further

/-- The states of a pattern, from an address on. -/
def Regular.states : Regular → Nat → List State
  | empty, _ => []
  | one s, _ => [.one s]
  | place t, _ => [.place t]
  | sequence a b, base =>
    let first := a.states base
    first ++ b.states (base + first.length)
  | choice a b, base =>
    let first := a.states (base + 1)
    let next := base + first.length + 2
    let second := b.states next
    .fork (base + 1) next :: first ++ .jump (next + second.length) :: second
  | repeated p least most greedy, base =>
    let (least, most) := p.bounds least most
    repeatedStates p.isSolid least most greedy p.states base
  | group index p, base => .save (2 * index) :: p.states (base + 1) ++ [.save (2 * index + 1)]

/-- An automaton: its states by address, which match when they are left at their end. -/
structure Automaton where
  states : Array State

/-- The automaton of a pattern. -/
def Regular.automaton (p : Regular) : Automaton := ⟨(p.states 0).toArray⟩

/-- A state to go on from, the place there, and the places that groups have begun and ended at, each
with its slot, the last one first. -/
structure Run where
  address : Nat := 0
  place : Nat
  slots : List (Nat × Nat) := []

/-- The runs that a state leads to, the preferred one first. -/
def State.step (text : Array Char) (r : Run) : State → List Run
  | one s => match text[r.place]? with
    | some c =>
      if s.contains c.toNat then [{ r with address := r.address + 1, place := r.place + 1 }]
      else []
    | none => []
  | place t => if passes text r.place t then [{ r with address := r.address + 1 }] else []
  | save slot => [{ r with address := r.address + 1, slots := (slot, r.place) :: r.slots }]
  | jump address => [{ r with address }]
  | fork first second => [{ r with address := first }, { r with address := second }]

/-- The first of some runs that leads to a match, without the states and places that have been
seen. -/
def Automaton.firstRun? (a : Automaton) (text : Array Char) :
    Nat → Std.HashSet (Nat × Nat) → List Run → Option Run
  | 0, _, _ => none
  | _ + 1, _, [] => none
  | fuel + 1, seen, r :: runs =>
    if seen.contains (r.address, r.place) then a.firstRun? text fuel seen runs
    else match a.states[r.address]? with
      | none => some r
      | some state =>
        a.firstRun? text fuel (seen.insert (r.address, r.place)) (state.step text r ++ runs)

/-- **The preferred match at a place.**  Each state is left at most once at each place, and by at
most two ways. -/
def Automaton.match? (a : Automaton) (text : Array Char) (place : Nat) : Option Run :=
  a.firstRun? text (2 * (a.states.size + 1) * (text.size + 2)) {} [{ place }]

end ApiContract.Pattern
