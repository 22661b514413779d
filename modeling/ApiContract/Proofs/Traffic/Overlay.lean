import ApiContract.Proofs.Traffic.Parameters
import Mathlib.Data.List.Basic

/-!
# Proofs/Traffic/Overlay — the parameters of a request, in full

`requestParameters` lists them: the path variables in template order, each with the value that
counts for it, then the other names of the query in the order they first come in, each with its last
value.  **`mergeParameters_eq`** says that this is what overlaying the query pair by pair leaves.
What carries it is that the pairs split by name (`mergeParameters_append`): those whose name is in
the path change it in place, and the others make up the rest.
-/

namespace ApiContract

/-- **The parameters of a request**: each path variable with the value that counts for it, then each
other name of the query, where it first comes, with the last value the query gives for it. -/
def requestParameters (path query : List (String × String)) : List (String × String) :=
  path.mapIdx (fun i p => (p.1, effectiveValue path query i p.1 p.2)) ++
    ((query.map (·.1)).filter (· ∉ path.map (·.1))).eraseDups.filterMap fun name =>
      (query.reverse.lookup name).map (name, ·)

variable {path query more : List (String × String)} {name n v : String}

/-! ## Writing one pair -/

/-- A name that is there is not added. -/
theorem names_write_of_mem (h : n ∈ path.map (·.1)) :
    (mergeParameters.write n v path).map (·.1) = path.map (·.1) := by
  induction path with
  | nil => cases h
  | cons first rest ih =>
    obtain ⟨m, w⟩ := first
    rw [mergeParameters.write]
    split_ifs with hm
    · rfl
    · have hne : n ≠ m := fun e => hm (beq_iff_eq.2 e.symm)
      exact congrArg (m :: ·) (ih ((List.mem_cons.1 h).resolve_left hne))

/-- A name that is there is written there. -/
theorem write_append_of_mem (h : n ∈ path.map (·.1)) :
    mergeParameters.write n v (path ++ more) = mergeParameters.write n v path ++ more := by
  induction path with
  | nil => cases h
  | cons first rest ih =>
    obtain ⟨m, w⟩ := first
    rw [List.cons_append, mergeParameters.write, mergeParameters.write]
    split_ifs with hm
    · rfl
    · have hne : n ≠ m := fun e => hm (beq_iff_eq.2 e.symm)
      rw [ih ((List.mem_cons.1 h).resolve_left hne), List.cons_append]

/-- A name that is not there is written behind. -/
theorem write_append_of_not_mem (h : n ∉ path.map (·.1)) :
    mergeParameters.write n v (path ++ more) = path ++ mergeParameters.write n v more := by
  induction path with
  | nil => rfl
  | cons first rest ih =>
    obtain ⟨m, w⟩ := first
    obtain ⟨hne, hrest⟩ := not_or.1 (List.mem_cons.not.1 h)
    rw [List.cons_append, mergeParameters.write, if_neg fun hm => hne (eq_of_beq hm).symm, ih hrest,
      List.cons_append]

/-! ## Overlaying all pairs -/

theorem mergeParameters_cons (q : String × String) :
    mergeParameters path (q :: query) =
      mergeParameters (mergeParameters.write q.1 q.2 path) query := rfl

/-- Pairs whose names are all there change no name. -/
theorem names_mergeParameters (h : ∀ q ∈ query, q.1 ∈ path.map (·.1)) :
    (mergeParameters path query).map (·.1) = path.map (·.1) := by
  induction query generalizing path with
  | nil => rfl
  | cons q query ih =>
    obtain ⟨hq, hquery⟩ := List.forall_mem_cons.1 h
    have hnames := names_write_of_mem (v := q.2) hq
    rw [mergeParameters_cons, ih (hnames ▸ hquery), hnames]

/-- **The pairs split by name**: those whose name is in front are overlaid there, and the others
behind. -/
theorem mergeParameters_append (path more query : List (String × String)) :
    mergeParameters (path ++ more) query =
      mergeParameters path (query.filter (·.1 ∈ path.map (·.1))) ++
        mergeParameters more (query.filter (·.1 ∉ path.map (·.1))) := by
  induction query generalizing path more with
  | nil => rfl
  | cons q query ih =>
    rw [mergeParameters_cons]
    by_cases h : q.1 ∈ path.map (·.1)
    · rw [write_append_of_mem h, ih, names_write_of_mem h,
        List.filter_cons_of_pos (by simpa using h), List.filter_cons_of_neg (by simpa using h)]
      rfl
    · rw [write_append_of_not_mem h, ih, List.filter_cons_of_neg (by simpa using h),
        List.filter_cons_of_pos (by simpa using h)]
      rfl

/-- Pairs of other names do not matter to what is found under a name. -/
theorem lookup_filter {p : String × String → Bool} (h : ∀ q ∈ query, q.1 = name → p q = true) :
    (query.filter p).lookup name = query.lookup name := by
  induction query with
  | nil => rfl
  | cons q query ih =>
    obtain ⟨hq, hquery⟩ := List.forall_mem_cons.1 h
    rw [List.lookup_cons]
    by_cases hn : name = q.1
    · rw [List.filter_cons_of_pos (hq hn.symm), List.lookup_cons, hn, beq_self_eq_true]
    · rw [beq_false_of_ne hn, ← ih hquery]
      by_cases hp : p q = true
      · rw [List.filter_cons_of_pos hp, List.lookup_cons, beq_false_of_ne hn]
      · rw [List.filter_cons_of_neg hp]

theorem lookup_reverse_filter {p : String × String → Bool}
    (h : ∀ q ∈ query, q.1 = name → p q = true) :
    (query.filter p).reverse.lookup name = query.reverse.lookup name := by
  rw [← List.filter_reverse]
  exact lookup_filter fun q hq => h q (List.mem_reverse.1 hq)

/-- Pairs whose names are all in the path leave of it what counts. -/
theorem mergeParameters_eq_mapIdx (h : ∀ q ∈ query, q.1 ∈ path.map (·.1)) :
    mergeParameters path query =
      path.mapIdx fun i p => (p.1, effectiveValue path query i p.1 p.2) := by
  refine List.ext_getElem? fun i => ?_
  rw [List.getElem?_mapIdx]
  cases hi : path[i]? with
  | some p => exact mergeParameters_getElem? query hi
  | none =>
    have hlength : (mergeParameters path query).length = path.length := by
      simpa using congrArg List.length (names_mergeParameters h)
    exact List.getElem?_eq_none (hlength ▸ List.getElem?_eq_none_iff.1 hi)

/-- The last value of a name, where a pair is put in front. -/
theorem lookup_reverse_cons :
    ((n, v) :: query).reverse.lookup name =
      (query.reverse.lookup name).or (if name = n then some v else none) := by
  rw [List.reverse_cons, List.lookup_append, List.lookup_singleton]
  simp only [beq_iff_eq]

/-- The names of a query without a path, each with its last value.  The first name is overlaid with
the pairs that have it; the others are those of fewer pairs. -/
theorem mergeParameters_nil : ∀ query : List (String × String),
    mergeParameters [] query =
      (query.map (·.1)).eraseDups.filterMap fun name => (query.reverse.lookup name).map (name, ·)
  | [] => rfl
  | (n, v) :: query => by
    have hsplit : mergeParameters [] ((n, v) :: query) =
        mergeParameters [(n, v)] (query.filter (·.1 ∈ [n])) ++
          mergeParameters [] (query.filter (·.1 ∉ [n])) :=
      mergeParameters_append [(n, v)] [] query
    have hfirst : mergeParameters [(n, v)] (query.filter (·.1 ∈ [n])) =
        [(n, (query.reverse.lookup n).getD v)] := by
      rw [mergeParameters_eq_mapIdx fun q hq => by simpa using (List.mem_filter.1 hq).2]
      change [(n, ((query.filter (·.1 ∈ [n])).reverse.lookup n).getD v)] = _
      rw [lookup_reverse_filter fun q _ hq => by simp [hq]]
    have hnames : (query.filter (·.1 ∉ [n])).map (·.1) =
        (query.map (·.1)).filter fun name => !name == n := by
      rw [List.filter_map]
      refine congrArg _ (List.filter_congr fun q _ => ?_)
      simp [Bool.beq_eq_decide_eq]
    have hn : ((n, v) :: query).reverse.lookup n = some ((query.reverse.lookup n).getD v) := by
      rw [lookup_reverse_cons, if_pos rfl]
      cases query.reverse.lookup n <;> rfl
    rw [hsplit, hfirst, mergeParameters_nil (query.filter _), hnames, List.map_cons,
      List.eraseDups_cons, List.filterMap_cons, hn, List.singleton_append]
    refine congrArg _ (List.filterMap_congr fun name hname => congrArg _ ?_)
    have hne : name ≠ n := by simpa using (List.mem_filter.1 (List.mem_eraseDups.1 hname)).2
    rw [lookup_reverse_filter fun q _ hq => by simp [hq, hne], lookup_reverse_cons, if_neg hne,
      Option.or_none]
termination_by query => query.length
decreasing_by exact Nat.lt_succ_of_le (List.length_filter_le _ _)

/-- **What overlaying leaves** are the parameters of the request. -/
theorem mergeParameters_eq (path query : List (String × String)) :
    mergeParameters path query = requestParameters path query := by
  have hsplit : mergeParameters path query =
      mergeParameters path (query.filter (·.1 ∈ path.map (·.1))) ++
        mergeParameters [] (query.filter (·.1 ∉ path.map (·.1))) := by
    rw [← mergeParameters_append, List.append_nil]
  have hnames : (query.filter (·.1 ∉ path.map (·.1))).map (·.1) =
      (query.map (·.1)).filter (· ∉ path.map (·.1)) := by
    rw [List.filter_map]
    rfl
  rw [hsplit, mergeParameters_nil, hnames,
    mergeParameters_eq_mapIdx fun q hq => by simpa using (List.mem_filter.1 hq).2,
    requestParameters]
  congr 1
  · refine List.mapIdx_eq_mapIdx_iff.2 fun i hi => ?_
    have hmem : path[i].1 ∈ path.map (·.1) := List.mem_map_of_mem (List.getElem_mem hi)
    unfold effectiveValue
    rw [lookup_reverse_filter fun q _ hq => by simpa [hq] using hmem]
  · refine List.filterMap_congr fun name hname => congrArg _ ?_
    have hnot : name ∉ path.map (·.1) := by
      simpa using (List.mem_filter.1 (List.mem_eraseDups.1 hname)).2
    exact lookup_reverse_filter fun q _ hq => by simpa [hq] using hnot

end ApiContract
