import ApiContract.Proofs.Path.Specificity

/-!
# Proofs/Path/Order — the order of templates needs no width

Segments are ordered, constants before variables and two of a kind by their texts, and so are lists
of segments: the first that differ decide, and a list goes before those that extend it.  Over every
width that two templates fit in, they compare as their segments do
(`Template.comparePadded_eq_compare`), whatever the width.
**`Template.isStableSort_sortBySpecificity`**: sorting by specificity is the stable sort by this
order.
-/

namespace ApiContract

/-! ## The order -/

/-- Constants go before variables, two of a kind by their texts. -/
instance : Ord Segment where
  compare
    | .const a, .const b => compare a b
    | .const _, .var _ => .lt
    | .var _, .const _ => .gt
    | .var a, .var b => compare a b

namespace Segment

/-- Where both templates have a segment, the order at the position is that of the segments. -/
theorem compareRank_some (s t : Segment) : compareRank (some s) (some t) = compare s t := by
  cases s <;> cases t <;> rfl

instance : Std.TransOrd Segment where
  eq_swap {s t} := by
    rw [← compareRank_some, ← compareRank_some]
    exact Std.OrientedCmp.eq_swap
  isLE_trans {s t u} := by
    rw [← compareRank_some, ← compareRank_some, ← compareRank_some]
    exact Std.TransCmp.isLE_trans

instance : Std.LawfulEqOrd Segment where
  compare_self {s} := by
    rw [← compareRank_some]
    exact Std.ReflCmp.compare_self
  eq_of_compare {s t} h := by
    rw [← compareRank_some, compareRank_eq_eq] at h
    exact Option.some.inj h

end Segment

namespace Template

variable {width : Nat} {a b : Template}

/-- **Two templates compare as their segments do**, over every width that both fit in.  The
induction is on the width; the first position is compared by the heads of the lists, of which one
may be missing. -/
theorem comparePadded_eq_compare (ha : a.segments.length ≤ width) (hb : b.segments.length ≤ width) :
    comparePadded width a b = compare a.segments b.segments := by
  have key : ∀ (width : Nat) (as bs : List Segment), as.length ≤ width → bs.length ≤ width →
      ((List.range width).map fun i => Segment.compareRank as[i]? bs[i]?).foldr Ordering.then .eq =
        compare as bs := by
    intro width
    induction width with
    | zero =>
      intro as bs ha hb
      obtain rfl := List.eq_nil_of_length_eq_zero (Nat.le_zero.1 ha)
      obtain rfl := List.eq_nil_of_length_eq_zero (Nat.le_zero.1 hb)
      rfl
    | succ width ih =>
      intro as bs ha hb
      rw [List.range_succ_eq_map, List.map_cons, List.foldr_cons, List.map_map]
      cases as with
      | nil =>
        cases bs with
        | nil => exact ih [] [] (Nat.zero_le _) (Nat.zero_le _)
        | cons t bs => cases t <;> rfl
      | cons s as =>
        cases bs with
        | nil => cases s <;> rfl
        | cons t bs =>
          have hrest := ih as bs (Nat.le_of_succ_le_succ ha) (Nat.le_of_succ_le_succ hb)
          have hcons : compare (s :: as) (t :: bs) = (compare s t).then (compare as bs) :=
            List.compareLex_cons_cons
          rw [hcons, ← hrest, ← Segment.compareRank_some]
          rfl
  exact key width a.segments b.segments ha hb

/-- Templates that fit in a width compare as equal over it when they have the same segments. -/
theorem comparePadded_eq_eq_iff (ha : a.segments.length ≤ width) (hb : b.segments.length ≤ width) :
    comparePadded width a b = .eq ↔ a.segments = b.segments := by
  rw [comparePadded_eq_compare ha hb, Std.LawfulEqOrd.compare_eq_iff_eq]

end Template

/-! ## Stable sorting -/

/-- **A stable sort**: the same entries, in ascending order, those that compare as equal in the
order they had. -/
structure IsStableSort {α : Type} (order : α → α → Ordering) (entries sorted : List α) : Prop where
  perm : sorted.Perm entries
  ascending : sorted.Pairwise fun e e' => (order e e').isLE = true
  stable : ∀ e, sorted.filter (fun e' => order e e' == .eq) =
    entries.filter fun e' => order e e' == .eq

section MergeSort

variable {α : Type}

/-- Entries are sorted alike by orders that agree on them. -/
theorem mergeSort_congr {le le' : α → α → Bool} {entries : List α}
    (h : ∀ a ∈ entries, ∀ b ∈ entries, le a b = le' a b) :
    entries.mergeSort le = entries.mergeSort le' := by
  have hid := List.map_mergeSort (f := id) h
  rwa [List.map_id, List.map_id] at hid

variable {order : α → α → Ordering} [Std.TransCmp order]

/-- Merge sort is stable: the entries that compare as equal to one are sorted already. -/
theorem isStableSort_mergeSort (entries : List α) :
    IsStableSort order entries (entries.mergeSort fun e e' => (order e e').isLE) := by
  have trans (e e' e'' : α) : (order e e').isLE = true → (order e' e'').isLE = true →
      (order e e'').isLE = true :=
    Std.TransCmp.isLE_trans
  have hperm := List.mergeSort_perm entries fun e e' => (order e e').isLE
  refine ⟨hperm, List.pairwise_mergeSort trans isLE_or_isLE entries, fun e => ?_⟩
  set alike := fun e' => order e e' == .eq
  have hsorted : (entries.filter alike).Pairwise fun e' e'' => (order e' e'').isLE = true := by
    refine List.pairwise_filter.2 (List.pairwise_of_forall fun e' e'' he' he'' => ?_)
    have hswap : order e' e = .eq := Std.OrientedCmp.eq_symm (eq_of_beq he')
    exact trans e' e e'' (by rw [hswap]; rfl) (by rw [eq_of_beq he'']; rfl)
  have hsub := (List.sublist_mergeSort trans isLE_or_isLE hsorted List.filter_sublist).filter alike
  rw [List.filter_filter] at hsub
  simp only [Bool.and_self] at hsub
  exact (hsub.eq_of_length (hperm.filter alike).length_eq.symm).symm

end MergeSort

namespace Template

/-- **Sorting needs no width**: it is the merge sort by the order of segments. -/
theorem sortBySpecificity_eq_mergeSort {α : Type} (template : α → Template) (entries : List α) :
    sortBySpecificity template entries =
      entries.mergeSort fun e e' => (compareOn (fun e => (template e).segments) e e').isLE := by
  have hwidest (e : α) (he : e ∈ entries) :
      (template e).segments.length ≤ widest (entries.map template) :=
    length_le_widest (List.mem_map_of_mem he)
  refine mergeSort_congr fun e he e' he' => congrArg Ordering.isLE ?_
  exact comparePadded_eq_compare (hwidest e he) (hwidest e' he')

/-- **Sorting by specificity** is the stable sort by the order of segments, and leaves what is in
that order as it is.  Over every width templates are in a total preorder; two that fit in it compare
as their segments do, and as equal exactly when they have the same. -/
theorem isStableSort_sortBySpecificity {α : Type} (template : α → Template) (entries : List α) :
    let order : α → α → Ordering := compareOn fun e => (template e).segments
    IsStableSort order entries (sortBySpecificity template entries) ∧
    (entries.Pairwise (fun e e' => (order e e').isLE = true) →
      sortBySpecificity template entries = entries) ∧
    ∀ width, Std.TransCmp (comparePadded width) ∧
      ∀ a b : Template, a.segments.length ≤ width → b.segments.length ≤ width →
        comparePadded width a b = compare a.segments b.segments ∧
        (comparePadded width a b = .eq ↔ a.segments = b.segments) := by
  intro order
  rw [sortBySpecificity_eq_mergeSort]
  refine ⟨isStableSort_mergeSort entries, List.mergeSort_of_pairwise,
    fun width => ⟨inferInstance, ?_⟩⟩
  exact fun a b ha hb => ⟨comparePadded_eq_compare ha hb, comparePadded_eq_eq_iff ha hb⟩

/-- All pets, one's own, and any. -/
def petTemplates : List Template :=
  [⟨"/pets", [.const "pets"]⟩, ⟨"/pets/mine", [.const "pets", .const "mine"]⟩,
    ⟨"/pets/\x7bid\x7d", [.const "pets", .var "id"]⟩]

/-- Templates that are in order stay so, and one that is shorter goes before, over its own width
too. -/
theorem sortBySpecificity_petTemplates :
    sortBySpecificity id petTemplates = petTemplates ∧
      comparePadded 2 ⟨"/pets", [.const "pets"]⟩
        ⟨"/pets/mine", [.const "pets", .const "mine"]⟩ = .lt := by
  obtain ⟨-, hsorted, hwidth⟩ := isStableSort_sortBySpecificity id petTemplates
  exact ⟨hsorted (by decide), ((hwidth 2).2 _ _ (by decide) (by decide)).1⟩

end Template

end ApiContract
