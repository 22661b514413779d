import ApiContract.Unicode.CharClass

/-!
# Unicode/RangeSet — sets of characters as ranges

Every set of characters is one list of ascending ranges that neither meet nor touch.
-/

namespace ApiContract

namespace CodeRanges

/-- A range and ascending ones after it, those that meet or touch made one. -/
def joinFrom (first last : Nat) : CodeRanges → CodeRanges
  | [] => [(first, last)]
  | (a, b) :: rest =>
    if a ≤ last + 1 then joinFrom first (max last b) rest else (first, last) :: joinFrom a b rest

/-- Ranges in ascending order that neither meet nor touch. -/
def tidy (r : CodeRanges) : CodeRanges :=
  match r.mergeSort fun x y => x.1 ≤ y.1 with
  | [] => []
  | (a, b) :: rest => joinFrom a b rest

/-- What ascending ranges leave out from a code point on. -/
def gapsFrom (start : Nat) : CodeRanges → CodeRanges
  | [] => if start ≤ Unicode.lastCode then [(start, Unicode.lastCode)] else []
  | (a, b) :: rest => if start < a then (start, a - 1) :: gapsFrom (b + 1) rest else gapsFrom (b + 1) rest

/-- All code points outside of tidy ranges. -/
def complement (r : CodeRanges) : CodeRanges := gapsFrom 0 r

/-- The code points of some ranges or others. -/
def union (r s : CodeRanges) : CodeRanges := tidy (r ++ s)

/-- The code points of tidy ranges that others hold too. -/
def intersection (r s : CodeRanges) : CodeRanges := complement (union (complement r) (complement s))

/-- The code points of tidy ranges that others do not hold. -/
def difference (r s : CodeRanges) : CodeRanges := intersection r (complement s)

end CodeRanges

namespace Unicode

/-- The letters that fold to others, each with the one it folds to. -/
def foldPairs : List (Nat × Nat) :=
  foldRuns.flatMap fun r =>
    (List.range ((r.last - r.first) / r.step + 1)).map fun i =>
      let n := r.first + i * r.step
      (n, r.image n)

/-- The letters of some ranges in any case. -/
def anyCaseOf (r : CodeRanges) : CodeRanges :=
  let images := (foldPairs.filter fun p => r.contains p.1 || r.contains p.2).map (·.2)
  let letters := images ++ (foldPairs.filter fun p => images.contains p.2).map (·.1)
  .union r (letters.map fun n => (n, n))

end Unicode

/-- **The ranges of a set of characters**, ascending, that neither meet nor touch. -/
def CharClass.toRanges : CharClass → CodeRanges
  | ranges r => .tidy r
  | union a b => .union a.toRanges b.toRanges
  | intersection a b => .intersection a.toRanges b.toRanges
  | difference a b => .difference a.toRanges b.toRanges
  | symmetricDifference a b =>
    .difference (.union a.toRanges b.toRanges) (.intersection a.toRanges b.toRanges)
  | complement a => .complement a.toRanges
  | anyCase a => Unicode.anyCaseOf a.toRanges

end ApiContract
