import Std.Data.HashSet
import ApiContract.Pattern.Regular.Basic
import ApiContract.Unicode.Bytes
import ApiContract.Unicode.RangeSet

/-!
# Pattern/Regular/Size — how large the automaton of a regular pattern is

A pattern whose automaton would take too many bytes is refused.  Two automata count: the one that
reads a text forwards, which also keeps the groups, and the one that reads it backwards.  Both go
over the bytes of a text, and write every repetition out.
-/

namespace ApiContract.Pattern

open Unicode

/-- The bytes of an automaton forwards and of one backwards. -/
structure Size where
  forwards : Nat
  backwards : Nat

namespace Size

/-- The size of the same automaton in both directions. -/
def both (n : Nat) : Size := ⟨n, n⟩

/-- The size of two automata. -/
def add (a b : Size) : Size := ⟨a.forwards + b.forwards, a.backwards + b.backwards⟩

instance : Add Size := ⟨add⟩

/-- The size of so many automata. -/
def times (n : Nat) (a : Size) : Size := ⟨n * a.forwards, n * a.backwards⟩

end Size

/-- The bytes of a state, of a byte range that leads on from it, and of any other way on. -/
def stateSize : Nat := 32

@[inherit_doc stateSize]
def byteRangeSize : Nat := 8

@[inherit_doc stateSize]
def wayOnSize : Nat := 4

/-! ## Sets of characters -/

/-- The bytes of a state from which some byte ranges lead on; a single one is kept in the state
itself. -/
def branchingSize (ranges : Nat) : Nat :=
  stateSize + if ranges ≤ 1 then 0 else ranges * byteRangeSize

/-- The rows below each of the first ranges of some rows, in which equal ranges stand together. -/
def byFirst : List ByteRow → List (List ByteRow)
  | [] => []
  | [] :: rows => byFirst rows
  | (range :: tail) :: rows => match rows with
    | (next :: _) :: _ =>
      if next = range then match byFirst rows with
        | below :: more => (tail :: below) :: more
        | [] => [[tail]]
      else [tail] :: byFirst rows
    | _ => [tail] :: byFirst rows

/-- The states that rows of at most so many ranges lead through, as what may follow. -/
def statesBelow : Nat → List ByteRow → List (List ByteRow)
  | 0, _ => []
  | n + 1, rows =>
    let rows := rows.filter (!·.isEmpty)
    if rows.isEmpty then [] else rows :: (byFirst rows).flatMap (statesBelow n)

/-- The bytes of an automaton forwards for rows of byte ranges: states with the same ways on are
one. -/
def forwardSize (rows : List ByteRow) : Nat :=
  let states := (Std.HashSet.ofList (statesBelow 4 rows)).toList
  states.foldl (fun n below => n + branchingSize (byFirst below).length) stateSize

/-- How many ranges two rows begin with that are the same. -/
def commonLength : ByteRow → ByteRow → Nat
  | a :: as, b :: bs => if a = b then commonLength as bs + 1 else 0
  | _, _ => 0

/-- The number of different beginnings of rows, in which equal ranges stand together. -/
def beginnings (before : ByteRow) : List ByteRow → Nat
  | [] => 0
  | row :: rows => row.length - commonLength before row + beginnings row rows

/-- The bytes of an automaton backwards for rows of byte ranges. -/
def backwardSize (rows : List ByteRow) : Nat :=
  2 * stateSize + stateSize * beginnings [] rows + wayOnSize * rows.length

/-- The size for a set of characters, given by tidy ranges. -/
def rangesSize (r : CodeRanges) : Size :=
  match r with
  | [] => .both stateSize
  | [(a, b)] =>
    if a = b then .both (stateSize * (Char.ofNat a).utf8Size)
    else if b < 0x80 then .both (2 * stateSize)
    else ⟨forwardSize (byteRows r), backwardSize (byteRows r)⟩
  | r =>
    if r.all (·.2 < 0x80) then .both (stateSize + branchingSize r.length)
    else ⟨forwardSize (byteRows r), backwardSize (byteRows r)⟩

/-! ## Patterns -/

/-- The set of a pattern that matches one character of a set, also as alternatives. -/
def Regular.set? : Regular → Option CharClass
  | one s => some s
  | choice a b => return .union (← a.set?) (← b.set?)
  | _ => none

/-- The number of alternatives, those of alternatives counted for themselves; sets are one. -/
def Regular.alternatives : Regular → Nat
  | choice a b => if (choice a b).set?.isSome then 1 else a.alternatives + b.alternatives
  | _ => 1

/-- The size of a repetition of an automaton; `isSolid` is whether it never matches the empty
text. -/
def repeatedSize (p : Size) (isSolid : Bool) (least : Nat) (most : Option Nat) : Size :=
  let wayOut := stateSize + 2 * wayOnSize
  match least, most with
  | 1, some 1 => p
  | 0, some 0 => .both stateSize
  | 0, some 1 => p + .both (wayOut + stateSize)
  | 0, none => p + .both (if isSolid then wayOut else 2 * wayOut + stateSize)
  | least, none => p.times least + .both wayOut
  | least, some most =>
    if most = least then p.times least
    else
      p.times most +
        .both ((most - least) * wayOut + stateSize + if least = 0 then stateSize else 0)

/-- The size of a pattern: alone, and as one of several alternatives. -/
def Regular.sizes : Regular → Size × Size
  | empty | place _ => (.both stateSize, .both stateSize)
  | one s => let n := rangesSize s.toRanges; (n, n)
  | sequence a b => let n := a.sizes.1 + b.sizes.1; (n, n)
  | choice a b => match (choice a b).set? with
    | some s => let n := rangesSize s.toRanges; (n, n)
    | none =>
      let n := a.sizes.2 + b.sizes.2
      (n + .both (2 * stateSize + wayOnSize * (a.alternatives + b.alternatives)), n)
  | repeated p least most _ =>
    let (least, most) := p.bounds least most
    let n := repeatedSize p.sizes.1 p.isSolid least most
    (n, n)
  | group _ p => let n := p.sizes.1 + ⟨2 * stateSize, 0⟩; (n, n)

/-- What automata have besides: the whole match as a group, its end, and the way to any place. -/
def commonSize : Size := ⟨5 * stateSize + 2 * wayOnSize, 3 * stateSize + 2 * wayOnSize⟩

/-- The bytes that an automaton may take. -/
def sizeLimit : Nat := 10 * 0x100000

/-- Whether a pattern is small enough. -/
def Regular.isSmall (p : Regular) : Bool :=
  let s := p.sizes.1 + commonSize
  s.forwards ≤ sizeLimit && s.backwards ≤ sizeLimit

/-- **The regular pattern that a text of the plain grammar writes**, if it is one. -/
def Regular.ofText? (text : List Char) : Option Regular := do
  let (p, _) ← (Plain.read text).toOption
  let r ← p.resolve? {} 0
  if r.pattern.isSmall then some r.pattern else none

end ApiContract.Pattern
