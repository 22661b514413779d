/-!
# Unicode/CaseRun — runs of letters with a like mapping

Mappings of letters are tables of runs: letters at equal steps, each the same distance from its image.
-/

namespace ApiContract.Unicode

/-- Letters `first`, `first + step`, … `last`, each `shift` before its image. -/
structure CaseRun where
  first : Nat
  last : Nat
  step : Nat
  shift : Int

/-- Whether a code point is a letter of the run. -/
def CaseRun.covers (r : CaseRun) (n : Nat) : Bool :=
  r.first ≤ n && n ≤ r.last && (n - r.first) % r.step == 0

/-- The image of a letter of the run. -/
def CaseRun.image (r : CaseRun) (n : Nat) : Nat := (n + r.shift).toNat

/-- The letter of the run with an image. -/
def CaseRun.source? (r : CaseRun) (image : Nat) : Option Nat :=
  let n := (image - r.shift).toNat
  if r.covers n then some n else none

end ApiContract.Unicode
