import ApiContract.Proofs.Path.Order
import ApiContract.Proofs.Path.Route

/-!
# Proofs/Path/Addition — a route that is added

Sorting puts an added entry somewhere among the others and leaves those in the order they had
(`Template.sortBySpecificity_insert`): the sort is stable, and how two templates compare does not
depend on the width, so neither on the longest template.  **`route?_sortBySpecificity_insert`**
draws the conclusion: a request is answered as it was, or by the added entry, and by that only if it
matches.
-/

namespace ApiContract

namespace Template

/-! ## Sorting with one entry more -/

section Sorting

variable {α : Type} {le : α → α → Bool}

/-- The first entry goes behind those that it does not precede. -/
theorem mergeSort_cons_eq_filter (trans : ∀ a b c, le a b = true → le b c = true → le a c = true)
    (total : ∀ a b, (le a b || le b a) = true) (a : α) (entries : List α) :
    (a :: entries).mergeSort le =
      (entries.mergeSort le).filter (fun b => !le a b) ++
        a :: (entries.mergeSort le).filter (le a) := by
  obtain ⟨front, back, hcons, hsorted, hfront⟩ := List.mergeSort_cons trans total a entries
  have hpair := List.pairwise_mergeSort trans total (a :: entries)
  rw [hcons] at hpair
  have hback : ∀ b ∈ back, le a b = true := fun b hb =>
    List.rel_of_pairwise_cons (List.pairwise_append.1 hpair).2.1 hb
  have hfront' : ∀ b ∈ front, ¬ le a b = true := fun b hb => by simpa using hfront b hb
  have hback' : ∀ b ∈ back, ¬ (!le a b) = true := fun b hb => by simpa using hback b hb
  rw [hcons, hsorted, List.filter_append, List.filter_append, List.filter_eq_self.2 hfront,
    List.filter_eq_nil_iff.2 hfront', List.filter_eq_nil_iff.2 hback', List.filter_eq_self.2 hback,
    List.append_nil, List.nil_append]

/-- **A stable sort puts an added entry among the others, which keep their order.**  The induction
is on the entries before it; each of them comes to stand in the same place of both lists. -/
theorem mergeSort_insert (trans : ∀ a b c, le a b = true → le b c = true → le a c = true)
    (total : ∀ a b, (le a b || le b a) = true) (before after : List α) (n : α) :
    ∃ front back, (before ++ after).mergeSort le = front ++ back ∧
      (before ++ n :: after).mergeSort le = front ++ n :: back := by
  induction before with
  | nil =>
    obtain ⟨front, back, hcons, hsorted, -⟩ := List.mergeSort_cons trans total n after
    exact ⟨front, back, hsorted, hcons⟩
  | cons a before ih =>
    obtain ⟨front, back, hsorted, hinserted⟩ := ih
    rw [List.cons_append, List.cons_append, mergeSort_cons_eq_filter trans total,
      mergeSort_cons_eq_filter trans total, hsorted, hinserted]
    by_cases h : le a n = true
    · refine ⟨(front ++ back).filter (fun b => !le a b) ++ a :: front.filter (le a),
        back.filter (le a), ?_, ?_⟩
      · simp
      · simp [h]
    · refine ⟨front.filter fun b => !le a b,
        back.filter (fun b => !le a b) ++ a :: (front ++ back).filter (le a), ?_, ?_⟩
      · simp
      · simp [h]

end Sorting

variable {α : Type}

/-- **An added entry comes among the others, which keep their order**, also where it is the
longest. -/
theorem sortBySpecificity_insert (template : α → Template) (before after : List α) (n : α) :
    ∃ front back, sortBySpecificity template (before ++ after) = front ++ back ∧
      sortBySpecificity template (before ++ n :: after) = front ++ n :: back := by
  rw [sortBySpecificity_eq_mergeSort, sortBySpecificity_eq_mergeSort]
  exact mergeSort_insert (fun _ _ _ => Std.TransCmp.isLE_trans) isLE_or_isLE before after n

end Template

/-- **An added route takes over nothing but what it matches.**  When an entry is added, wherever
among the others, a request is answered as it was, by the same entry with the same parameters or by
none; or it is answered by the added entry, which then matches it. -/
theorem route?_sortBySpecificity_insert {α : Type} (template : α → Template)
    (before after : List α) (n : α) (path : String) :
    let routed := route? template (Template.sortBySpecificity template (before ++ n :: after)) path
    routed = route? template (Template.sortBySpecificity template (before ++ after)) path ∨
      (template n).matchesRequest (requestSegments path) = true ∧
        routed = some ⟨n, (template n).extract (requestSegments path)⟩ := by
  obtain ⟨front, back, hsorted, hinserted⟩ :=
    Template.sortBySpecificity_insert template before after n
  simp only [route?, hsorted, hinserted, List.find?_append, List.find?_cons]
  cases front.find? fun e => (template e).matchesRequest (requestSegments path) with
  | some e => exact .inl rfl
  | none =>
    by_cases h : (template n).matchesRequest (requestSegments path) = true
    · rw [h]
      exact .inr ⟨rfl, rfl⟩
    · rw [Bool.not_eq_true] at h
      rw [h]
      exact .inl rfl

end ApiContract
