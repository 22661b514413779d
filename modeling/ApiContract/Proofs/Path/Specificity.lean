import ApiContract.Path.Specificity
import Mathlib.Algebra.Order.Group.Nat
import Mathlib.Data.List.Perm.Basic
import Mathlib.Order.Basic

/-!
# Proofs/Path/Specificity — the order of templates is a sorted order

The comparison of templates over a width is decided at the first position where they differ
(`Template.comparePadded_of_first`).  It is total and transitive, so sorting by it gives a
permutation in which no template comes after one it precedes
(`Template.pairwise_sortBySpecificity`).  The order of segments it gives is the same for any order
of the entries (`Template.map_segments_sortBySpecificity`).
-/

namespace ApiContract

/-- Of two things in an order one precedes the other. -/
theorem isLE_or_isLE {α : Type} {cmp : α → α → Ordering} [Std.OrientedCmp cmp] (a b : α) :
    ((cmp a b).isLE || (cmp b a).isLE) = true := by
  have hswap : cmp b a = (cmp a b).swap := Std.OrientedCmp.eq_swap
  rw [hswap]
  cases cmp a b <;> rfl

/-! ## One position -/

namespace Segment

theorem rank_injective : Function.Injective rank := by
  intro a b h
  rcases a with _ | ⟨_⟩ | ⟨_⟩ <;> rcases b with _ | ⟨_⟩ | ⟨_⟩ <;> simp_all [rank]

/-- One position is compared by kind, then by text. -/
theorem compareRank_eq :
    compareRank = compareLex (compareOn fun a => (rank a).1) (compareOn fun a => (rank a).2) := rfl

instance : Std.TransCmp compareRank := by
  rw [compareRank_eq]
  infer_instance

/-- Positions compare as equal when they hold the same, or nothing both. -/
theorem compareRank_eq_eq {a b : Option Segment} : compareRank a b = .eq ↔ a = b := by
  unfold compareRank
  rw [Ordering.then_eq_eq, Std.LawfulEqOrd.compare_eq_iff_eq, Std.LawfulEqOrd.compare_eq_iff_eq,
    ← Prod.ext_iff, rank_injective.eq_iff]

end Segment

/-! ## All positions -/

namespace Template

variable {width : Nat} {a b : Template} {i : Nat}

/-- The first position that decides, decides. -/
theorem foldr_then_of_first {os : List Ordering} {o : Ordering} (hi : os[i]? = some o)
    (ho : o ≠ .eq) (hj : ∀ j < i, os[j]? = some .eq) : os.foldr Ordering.then .eq = o := by
  induction os generalizing i with
  | nil => cases hi
  | cons o' os ih =>
    rw [List.foldr_cons]
    cases i with
    | zero =>
      obtain rfl : o' = o := Option.some.inj hi
      cases o' with
      | lt => rfl
      | eq => exact absurd rfl ho
      | gt => rfl
    | succ i =>
      obtain rfl : o' = .eq := Option.some.inj (hj 0 i.succ_pos)
      exact ih hi fun j h => hj (j + 1) (Nat.succ_lt_succ h)

/-- **Templates are compared at the first position where they differ.** -/
theorem comparePadded_of_first (hi : i < width) (hne : a.segments[i]? ≠ b.segments[i]?)
    (hj : ∀ j < i, a.segments[j]? = b.segments[j]?) :
    comparePadded width a b = Segment.compareRank a.segments[i]? b.segments[i]? := by
  set rank := fun i : Nat => Segment.compareRank a.segments[i]? b.segments[i]?
  have hget : ∀ j < width, ((List.range width).map rank)[j]? = some (rank j) := by
    intro j h
    rw [List.getElem?_map, List.getElem?_range h, Option.map_some]
  have hdecides : rank i ≠ .eq := fun h => hne (Segment.compareRank_eq_eq.1 h)
  refine foldr_then_of_first (hget i hi) hdecides fun j h => ?_
  have hequal : rank j = .eq := Segment.compareRank_eq_eq.2 (hj j h)
  rw [hget j (h.trans hi), hequal]

/-- Templates that differ at a position have a first position where they differ. -/
theorem exists_first_difference (hne : a.segments[i]? ≠ b.segments[i]?) :
    ∃ j ≤ i, a.segments[j]? ≠ b.segments[j]? ∧ ∀ k < j, a.segments[k]? = b.segments[k]? := by
  induction i using Nat.strong_induction_on with
  | _ i ih =>
    by_cases h : ∀ k < i, a.segments[k]? = b.segments[k]?
    · exact ⟨i, le_rfl, hne, h⟩
    · obtain ⟨k, hk, hk'⟩ := not_forall₂.1 h
      obtain ⟨j, hj, first⟩ := ih k hk hk'
      exact ⟨j, hj.trans hk.le, first⟩

/-- Templates no longer than a width differ within it. -/
theorem lt_of_getElem?_ne (ha : a.segments.length ≤ width) (hb : b.segments.length ≤ width)
    (hne : a.segments[i]? ≠ b.segments[i]?) : i < width := by
  by_contra hle
  have hle := Nat.le_of_not_lt hle
  have ha' : a.segments[i]? = none := List.getElem?_eq_none (ha.trans hle)
  have hb' : b.segments[i]? = none := List.getElem?_eq_none (hb.trans hle)
  exact hne (ha'.trans hb'.symm)

/-- Templates no longer than a width that compare as equal over it have the same segments. -/
theorem segments_eq_of_comparePadded (ha : a.segments.length ≤ width)
    (hb : b.segments.length ≤ width) (h : comparePadded width a b = .eq) :
    a.segments = b.segments := by
  refine List.ext_getElem? fun i => ?_
  by_contra hne
  obtain ⟨j, -, hj, first⟩ := exists_first_difference hne
  rw [comparePadded_of_first (lt_of_getElem?_ne ha hb hj) hj first] at h
  exact hj (Segment.compareRank_eq_eq.1 h)

instance : Std.TransCmp (comparePadded width) := by
  -- over any list of positions: each adds one comparison in front of the others
  have key : ∀ positions : List Nat, Std.TransCmp fun a b : Template =>
      (positions.map fun i => Segment.compareRank a.segments[i]? b.segments[i]?).foldr
        Ordering.then .eq := by
    intro positions
    induction positions with
    | nil => exact { eq_swap := rfl, isLE_trans := fun _ _ => rfl }
    | cons i positions ih =>
      have head : Std.TransCmp fun a b : Template =>
          Segment.compareRank a.segments[i]? b.segments[i]? :=
        { eq_swap := Std.OrientedCmp.eq_swap, isLE_trans := Std.TransCmp.isLE_trans }
      exact inferInstanceAs (Std.TransCmp (compareLex (fun a b : Template =>
        Segment.compareRank a.segments[i]? b.segments[i]?) _))
  exact key (List.range width)

/-! ## Sorted entries -/

variable {α : Type} {template : α → Template} {entries : List α} {e : α}

theorem mem_sortBySpecificity : e ∈ sortBySpecificity template entries ↔ e ∈ entries :=
  List.mem_mergeSort

/-- Sorting rearranges. -/
theorem perm_sortBySpecificity : (sortBySpecificity template entries).Perm entries :=
  List.mergeSort_perm _ _

/-- No template is longer than the widest. -/
theorem length_le_widest {templates : List Template} (h : a ∈ templates) :
    a.segments.length ≤ widest templates := by
  have key : ∀ (lengths : List Nat) (m n : Nat), n = m ∨ n ∈ lengths → n ≤ lengths.foldl max m := by
    intro lengths
    induction lengths with
    | nil => simp
    | cons l ls ih =>
      intro m n hn
      rw [List.foldl_cons]
      rcases hn with rfl | hn
      · exact (le_max_left n l).trans (ih (max n l) (max n l) (.inl rfl))
      · rcases List.mem_cons.1 hn with rfl | hn
        · exact (le_max_right m n).trans (ih (max m n) (max m n) (.inl rfl))
        · exact ih (max m l) n (.inr hn)
  exact key _ 0 _ (.inr (List.mem_map_of_mem h))

/-- **Sorted entries**: none comes after one it precedes. -/
theorem pairwise_sortBySpecificity (template : α → Template) (entries : List α) :
    (sortBySpecificity template entries).Pairwise fun e e' =>
      (comparePadded (widest (entries.map template)) (template e) (template e')).isLE = true := by
  exact List.pairwise_mergeSort (fun _ _ _ => Std.TransCmp.isLE_trans)
    (fun e e' => isLE_or_isLE (template e) (template e')) entries

/-- The widest of templates is the same in any order. -/
theorem widest_eq_of_perm {templates templates' : List Template} (h : templates.Perm templates') :
    widest templates = widest templates' :=
  (h.map _).foldl_eq 0

/-- **Sorting is canonical**: entries in another order come in the same order of segments. -/
theorem map_segments_sortBySpecificity {entries' : List α} (h : entries.Perm entries') :
    (sortBySpecificity template entries).map (fun e => (template e).segments) =
      (sortBySpecificity template entries').map fun e => (template e).segments := by
  have hsort : (sortBySpecificity template entries).Perm (sortBySpecificity template entries') :=
    perm_sortBySpecificity.trans (h.trans perm_sortBySpecificity.symm)
  -- segments compare as the templates they are of do
  have hsorted : ∀ es, widest (es.map template) = widest (entries.map template) →
      ((sortBySpecificity template es).map fun e => (template e).segments).Pairwise fun a b =>
        (comparePadded (widest (entries.map template)) ⟨"", a⟩ ⟨"", b⟩).isLE = true :=
    fun es hes => List.pairwise_map.2 (hes ▸ pairwise_sortBySpecificity template es)
  have hwidth := widest_eq_of_perm (h.symm.map template)
  refine (hsort.map _).eq_of_pairwise ?_ (hsorted entries rfl) (hsorted entries' hwidth)
  intro a b ha hb hab hba
  obtain ⟨e, he, rfl⟩ := List.mem_map.1 ha
  obtain ⟨e', he', rfl⟩ := List.mem_map.1 hb
  have he : template e ∈ entries.map template := List.mem_map_of_mem (mem_sortBySpecificity.1 he)
  have he' : template e' ∈ entries.map template :=
    List.mem_map_of_mem (h.mem_iff.2 (mem_sortBySpecificity.1 he'))
  exact segments_eq_of_comparePadded (length_le_widest he) (length_le_widest he')
    (Std.OrientedCmp.isLE_antisymm hab hba)

end Template

end ApiContract
