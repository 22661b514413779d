import ApiContract.Unicode.FoldTable

/-!
# Unicode/Fold — letters that differ in case only

Two characters are the same in any case when simple case folding takes them to one letter; the orbit of a
character is all that are the same as it.
-/

namespace ApiContract.Unicode

/-- The letter that stands for all cases of a code point. -/
def fold (n : Nat) : Nat :=
  match foldRuns.find? (·.covers n) with
  | some r => r.image n
  | none => n

/-- The code points that differ from `n` in case only, itself among them. -/
def orbit (n : Nat) : List Nat := fold n :: foldRuns.filterMap (·.source? (fold n))

end ApiContract.Unicode
