import ApiContract.Pattern.Regular.Basic

/-!
# Pattern/Regular/Search — whether a regular pattern has a match

A match is looked for from all places at once: `spread` follows a set of places through the pattern.
-/

namespace ApiContract.Pattern

/-- Two increasing lists merged into one. -/
def mergePlaces : List Nat → List Nat → List Nat
  | [], bs => bs
  | as, [] => as
  | a :: as, b :: bs =>
    if a < b then a :: mergePlaces as (b :: bs)
    else if b < a then b :: mergePlaces (a :: as) bs
    else a :: mergePlaces as bs
termination_by as bs => as.length + bs.length

/-- The members of an increasing list that are not in another. -/
def newPlaces : List Nat → List Nat → List Nat
  | [], _ => []
  | as, [] => as
  | a :: as, b :: bs =>
    if a < b then a :: newPlaces as (b :: bs)
    else if b < a then newPlaces (a :: as) bs
    else newPlaces as bs
termination_by as bs => as.length + bs.length

/-- The places after so many steps; steps that change nothing are not taken. -/
def stepTimes (step : List Nat → List Nat) : Nat → List Nat → List Nat
  | 0, places => places
  | n + 1, places =>
    let after := step places
    if after == places then places else stepTimes step n after

/-- The places after at most so many steps, from those reached and the ones reached last. -/
def stepUpTo (step : List Nat → List Nat) : Nat → List Nat → List Nat → List Nat
  | 0, reached, _ => reached
  | n + 1, reached, last =>
    let new := newPlaces (step last) reached
    if new.isEmpty then reached else stepUpTo step n (mergePlaces reached new) new

/-- The places where matches end that start at given places. -/
def Regular.spread (text : Array Char) : Regular → List Nat → List Nat
  | empty, places => places
  | one s, places =>
    places.filterMap fun i => (text[i]?).bind fun c =>
      if s.contains c.toNat then some (i + 1) else none
  | place t, places => places.filter fun i => passes text i t
  | sequence a b, places => b.spread text (a.spread text places)
  | choice a b, places => mergePlaces (a.spread text places) (b.spread text places)
  | repeated p least most _, places =>
    let start := stepTimes (p.spread text) least places
    stepUpTo (p.spread text) (most.elim (text.size + 1) (· - least)) start start
  | group _ p, places => p.spread text places

/-- **Whether a regular pattern matches some part of a text.** -/
def Regular.search (p : Regular) (text : Array Char) : Bool :=
  !(p.spread text (List.range (text.size + 1))).isEmpty

end ApiContract.Pattern
