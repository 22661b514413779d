import ApiContract.Path.Template

/-!
# Path/Specificity — the order templates are tried in

Templates are compared position by position, each padded to a common width: nothing comes before a
constant, a constant before a variable, two of a kind by their texts.  Sorting is stable.
-/

namespace ApiContract

namespace Segment

/-- What stands at a position: nothing, a constant or a variable, with its text. -/
def rank : Option Segment → Nat × String
  | none => (0, "")
  | some (const value) => (1, value)
  | some (var name) => (2, name)

/-- The order at one position. -/
def compareRank (a b : Option Segment) : Ordering :=
  (compare (rank a).1 (rank b).1).then (compare (rank a).2 (rank b).2)

end Segment

namespace Template

/-- Compare two templates over the first `width` positions. -/
def comparePadded (width : Nat) (a b : Template) : Ordering :=
  ((List.range width).map fun i => Segment.compareRank a.segments[i]? b.segments[i]?).foldr
    Ordering.then .eq

/-- The length of the longest of some templates. -/
def widest (templates : List Template) : Nat := (templates.map (·.segments.length)).foldl max 0

/-- Sort things by the specificity of their templates; equal ones keep their order. -/
def sortBySpecificity {α : Type} (template : α → Template) (entries : List α) : List α :=
  let width := widest (entries.map template)
  entries.mergeSort fun a b => (comparePadded width (template a) (template b)).isLE

end Template

end ApiContract
