import ApiContract.Keyed
import Mathlib.Data.List.Nodup

/-!
# Proofs/Keyed — what a map holds was written to it

Entries of a map come from the entries it was built of, and a value that is looked up from one of
them.  Where no key was written twice, what is looked up under a key is what was written under it,
and the map has all that was written, in whatever order.  The keys of a map ascend, and so do those
of a set.
-/

namespace ApiContract.Keyed

variable {κ α : Type} [Ord κ] {key : κ} {value : α} {m entries : List (κ × α)} {e : κ × α}

/-- What a map holds after writing is what was written, or what it held. -/
theorem mem_insert (h : e ∈ insert key value m) : e = (key, value) ∨ e ∈ m := by
  induction m with
  | nil => exact .inl (List.mem_singleton.1 h)
  | cons first rest ih =>
    obtain ⟨k, v⟩ := first
    rw [insert] at h
    split at h
    · exact List.mem_cons.1 h
    · exact (List.mem_cons.1 h).imp_right (List.mem_cons_of_mem _)
    · rcases List.mem_cons.1 h with rfl | h
      · exact .inr List.mem_cons_self
      · exact (ih h).imp_right (List.mem_cons_of_mem _)

/-- **A map holds only what was written.** -/
theorem mem_of_mem_ofList (h : e ∈ ofList entries) : e ∈ entries := by
  have key : ∀ (written : List (κ × α)) (m : List (κ × α)),
      e ∈ written.foldl (fun m e => insert e.1 e.2 m) m → e ∈ m ∨ e ∈ written := by
    intro written
    induction written with
    | nil => exact fun m h => .inl h
    | cons first rest ih =>
      intro m h
      rw [List.foldl_cons] at h
      rcases ih _ h with h | h
      · rcases mem_insert h with rfl | h
        · exact .inr List.mem_cons_self
        · exact .inl h
      · exact .inr (List.mem_cons_of_mem _ h)
  exact (key entries [] h).resolve_left List.not_mem_nil

/-- Writing adds one key. -/
theorem mem_keys_insert [Std.LawfulEqOrd κ] {k : κ} :
    k ∈ (insert key value m).map (·.1) ↔ k = key ∨ k ∈ m.map (·.1) := by
  induction m with
  | nil => exact List.mem_cons
  | cons first rest ih =>
    obtain ⟨k', v⟩ := first
    rw [insert]
    split
    next => exact List.mem_cons
    next heq =>
      obtain rfl := Std.compare_eq_iff_eq.1 heq
      rw [List.map_cons, List.map_cons, List.mem_cons, ← or_assoc, or_self]
    next => rw [List.map_cons, List.map_cons, List.mem_cons, List.mem_cons, ih, or_left_comm]

/-- **No key that was written is lost.** -/
theorem mem_keys_ofList [Std.LawfulEqOrd κ] {k : κ} :
    k ∈ (ofList entries).map (·.1) ↔ k ∈ entries.map (·.1) := by
  have written : ∀ entries m : List (κ × α),
      k ∈ (entries.foldl (fun m e => insert e.1 e.2 m) m).map (·.1) ↔
        k ∈ entries.map (·.1) ∨ k ∈ m.map (·.1) := by
    intro entries
    induction entries with
    | nil => exact fun m => (or_iff_right List.not_mem_nil).symm
    | cons e entries ih =>
      intro m
      rw [List.foldl_cons, ih, mem_keys_insert, List.map_cons, List.mem_cons, or_left_comm,
        or_assoc]
  exact (written entries []).trans (or_iff_left List.not_mem_nil)

/-- What is found under a key is in the map, under a key equal to it. -/
theorem exists_mem_of_get? (h : get? key m = some value) :
    ∃ e ∈ m, compare key e.1 = .eq ∧ e.2 = value := by
  obtain ⟨e, he, rfl⟩ := Option.map_eq_some_iff.1 h
  exact ⟨e, List.mem_of_find?_eq_some he, by simpa using List.find?_some he, rfl⟩

/-- There is nothing under a key that no entry has. -/
theorem get?_eq_none_iff [Std.LawfulEqOrd κ] : get? key m = none ↔ ∀ e ∈ m, e.1 ≠ key := by
  rw [get?, Option.map_eq_none_iff, List.find?_eq_none]
  refine forall₂_congr fun e _ => not_congr ?_
  rw [beq_iff_eq, Std.compare_eq_iff_eq, eq_comm]

/-! ## Looking up what was written -/

section Lookup

variable [Std.LawfulEqOrd κ] [DecidableEq κ]

/-- The first entry that has a key is what is found under it. -/
theorem get?_cons : get? key (e :: m) = if key = e.1 then some e.2 else get? key m := by
  unfold get?
  rw [List.find?_cons]
  split_ifs with h
  · rw [Std.compare_eq_iff_eq.2 h]
    rfl
  · have hne : (compare key e.1 == .eq) = false :=
      beq_eq_false_iff_ne.2 fun heq => h (Std.compare_eq_iff_eq.1 heq)
    rw [hne]

/-- Writing changes what is under its own key, and nothing else. -/
theorem get?_insert {k : κ} :
    get? key (insert k value m) = if key = k then some value else get? key m := by
  induction m with
  | nil => rw [insert, get?_cons]
  | cons first rest ih =>
    obtain ⟨k', v⟩ := first
    rw [insert]
    split
    next => rw [get?_cons]
    next heq =>
      obtain rfl := Std.compare_eq_iff_eq.1 heq
      rw [get?_cons, get?_cons]
      split_ifs <;> rfl
    next hgt =>
      have hne : k ≠ k' := fun h => by simp [Std.compare_eq_iff_eq.2 h] at hgt
      rw [get?_cons, get?_cons, ih]
      dsimp only
      by_cases hk : key = k
      · rw [if_pos hk, if_pos hk, if_neg fun h => hne (hk.symm.trans h)]
      · rw [if_neg hk, if_neg hk]

/-- **What is under a key is the entry that has it**, where no key comes twice. -/
theorem get?_eq_some_iff (h : (m.map (·.1)).Nodup) :
    get? key m = some value ↔ (key, value) ∈ m := by
  induction m with
  | nil => exact iff_of_false nofun List.not_mem_nil
  | cons e m ih =>
    obtain ⟨k, v⟩ := e
    obtain ⟨hk, hnodup⟩ := List.nodup_cons.1 h
    rw [get?_cons, List.mem_cons, ← ih hnodup, Prod.mk.injEq]
    dsimp only
    split_ifs with hkey
    · subst hkey
      have hnone : get? key m ≠ some value :=
        fun hv => hk (List.mem_map.2 ⟨_, (ih hnodup).1 hv, rfl⟩)
      simp [hnone, eq_comm]
    · simp [hkey]

/-- **A map gives what was written under a key**, where each key was written once. -/
theorem get?_ofList_eq_some_iff (h : (entries.map (·.1)).Nodup) :
    get? key (ofList entries) = some value ↔ (key, value) ∈ entries := by
  have written : ∀ (entries m : List (κ × α)), (entries.map (·.1)).Nodup →
      (get? key (entries.foldl (fun m e => insert e.1 e.2 m) m) = some value ↔
        (key, value) ∈ entries ∨ key ∉ entries.map (·.1) ∧ get? key m = some value) := by
    intro entries
    induction entries with
    | nil => simp
    | cons e entries ih =>
      intro m hnodup
      obtain ⟨k, a⟩ := e
      obtain ⟨hk, hnodup⟩ := List.nodup_cons.1 hnodup
      rw [List.foldl_cons, ih _ hnodup, get?_insert]
      dsimp only at hk ⊢
      by_cases hkey : key = k
      · subst hkey
        have hnot : (key, value) ∉ entries := fun he => hk (List.mem_map_of_mem he)
        simp [hk, hnot, eq_comm]
      · simp [hkey]
  exact (written entries [] h).trans (or_iff_left fun h => nomatch h.2)

end Lookup

/-! ## Ascending keys -/

/-- **The keys of a map ascend**, so none comes twice. -/
def Ascending (m : List (κ × α)) : Prop := m.Pairwise fun a b => compare a.1 b.1 = .lt

/-- Of two keys one comes first. -/
theorem not_lt_of_lt [Std.OrientedOrd κ] {a b : κ} (h : compare a b = .lt) : compare b a ≠ .lt := by
  rw [Std.OrientedCmp.gt_of_lt h]
  decide

/-- Maps with the same entries are the same list. -/
theorem Ascending.eq_of_perm [Std.OrientedOrd κ] {m' : List (κ × α)} (h : Ascending m)
    (h' : Ascending m') (hp : m.Perm m') : m = m' :=
  hp.eq_of_pairwise (fun _ _ _ _ hab hba => absurd hba (not_lt_of_lt hab)) h h'

/-- Maps with the same keys have them in the same order. -/
theorem Ascending.keys_eq_of_perm [Std.OrientedOrd κ] {m' : List (κ × α)} (h : Ascending m)
    (h' : Ascending m') (hp : (m.map (·.1)).Perm (m'.map (·.1))) : m.map (·.1) = m'.map (·.1) := by
  have ascending {m : List (κ × α)} (h : Ascending m) :
      (m.map (·.1)).Pairwise fun a b => compare a b = .lt := List.pairwise_map.2 h
  exact hp.eq_of_pairwise (fun _ _ _ _ hab hba => absurd hba (not_lt_of_lt hab))
    (ascending h) (ascending h')

/-- A set of keys is a map to nothing. -/
theorem insertKey_keys {m : List (κ × Unit)} :
    insertKey key (m.map (·.1)) = (insert key () m).map (·.1) := by
  induction m with
  | nil => rfl
  | cons e m ih =>
    obtain ⟨k, v⟩ := e
    rw [List.map_cons, insertKey, Keyed.insert]
    cases compare key k with
    | lt => rfl
    | eq => rfl
    | gt =>
      dsimp only
      rw [ih, List.map_cons]

/-- A set of keys is the map of them to nothing. -/
theorem keysOf_eq {keys : List κ} :
    keysOf keys = (ofList (keys.map fun k => (k, ()))).map (·.1) := by
  have written : ∀ (keys : List κ) (m : List (κ × Unit)),
      keys.foldl (fun s k => insertKey k s) (m.map (·.1)) =
        ((keys.map fun k => (k, ())).foldl (fun m e => Keyed.insert e.1 e.2 m) m).map (·.1) := by
    intro keys
    induction keys with
    | nil => exact fun m => rfl
    | cons k keys ih =>
      intro m
      rw [List.foldl_cons, insertKey_keys, ih]
      rfl
  exact written keys []

section Ascending

variable [Std.LawfulEqOrd κ]

/-- **A set of keys has those it was made of.** -/
theorem mem_keysOf {keys : List κ} : key ∈ keysOf keys ↔ key ∈ keys := by
  rw [keysOf_eq, mem_keys_ofList, List.map_map]
  exact iff_of_eq (congrArg _ (List.map_id keys))

theorem Ascending.nodup (h : Ascending m) : (m.map (·.1)).Nodup := by
  refine List.pairwise_map.2 (List.Pairwise.imp (fun {a b} hlt heq => ?_) h)
  rw [Std.compare_eq_iff_eq.2 heq] at hlt
  cases hlt

variable [Std.TransOrd κ]

theorem Ascending.insert (h : Ascending m) : Ascending (insert key value m) := by
  induction m with
  | nil => exact List.pairwise_singleton _ _
  | cons first rest ih =>
    obtain ⟨k, v⟩ := first
    obtain ⟨hfirst, hrest⟩ := List.pairwise_cons.1 h
    rw [Keyed.insert]
    split
    next hlt =>
      refine List.pairwise_cons.2 ⟨List.forall_mem_cons.2 ⟨hlt, fun e he => ?_⟩, h⟩
      exact Std.TransCmp.lt_trans hlt (hfirst e he)
    next heq =>
      obtain rfl := Std.compare_eq_iff_eq.1 heq
      exact List.pairwise_cons.2 ⟨hfirst, hrest⟩
    next hgt =>
      refine List.pairwise_cons.2 ⟨fun e he => ?_, ih hrest⟩
      rcases mem_insert he with rfl | he
      · exact Std.OrientedCmp.lt_of_gt hgt
      · exact hfirst e he

/-- **A map that is built by writing has ascending keys.** -/
theorem ascending_ofList : Ascending (ofList entries) := by
  have written : ∀ (entries m : List (κ × α)), Ascending m →
      Ascending (entries.foldl (fun m e => Keyed.insert e.1 e.2 m) m) := by
    intro entries
    induction entries with
    | nil => exact fun m h => h
    | cons e entries ih => exact fun m h => ih _ h.insert
  exact written entries [] .nil

/-- **A set of keys has each of them once.** -/
theorem nodup_keysOf {keys : List κ} : (keysOf keys).Nodup := by
  rw [keysOf_eq]
  exact ascending_ofList.nodup

end Ascending

/-! ## Entries under different keys -/

section Distinct

variable [Std.LawfulEqOrd κ]

/-- A key that a map does not have adds an entry to it. -/
theorem perm_insert (h : key ∉ m.map (·.1)) : (insert key value m).Perm ((key, value) :: m) := by
  induction m with
  | nil => exact .refl _
  | cons first rest ih =>
    obtain ⟨k, v⟩ := first
    rw [insert]
    split
    next => exact .refl _
    next heq => exact absurd (List.mem_cons.2 (.inl (Std.compare_eq_iff_eq.1 heq))) h
    next => exact ((ih fun hk => h (List.mem_cons_of_mem _ hk)).cons _).trans (.swap _ _ _)

/-- **Nothing that is written is lost**, where no key is written twice: the map has the entries, in
order. -/
theorem perm_ofList (h : (entries.map (·.1)).Nodup) : (ofList entries).Perm entries := by
  have written : ∀ entries m : List (κ × α), ((m ++ entries).map (·.1)).Nodup →
      (entries.foldl (fun m e => insert e.1 e.2 m) m).Perm (m ++ entries) := by
    intro entries
    induction entries with
    | nil =>
      intro m _
      rw [List.append_nil]
      exact .refl m
    | cons e entries ih =>
      intro m hnodup
      -- the entry is moved to the front, where it is an entry more of the map
      have hmiddle : (m ++ e :: entries).Perm (e :: (m ++ entries)) := List.perm_middle
      have hfront := (hmiddle.map Prod.fst).nodup_iff.1 hnodup
      have hkey : e.1 ∉ m.map (·.1) := fun hk =>
        (List.nodup_cons.1 hfront).1 (List.map_append ▸ List.mem_append_left _ hk)
      have hinsert : (insert e.1 e.2 m ++ entries).Perm (e :: (m ++ entries)) :=
        (perm_insert hkey).append_right entries
      exact (ih _ ((hinsert.map Prod.fst).nodup_iff.2 hfront)).trans (hinsert.trans hmiddle.symm)
  exact written entries [] h

variable [Std.TransOrd κ]

/-- **The order of writing does not matter** where no key is written twice. -/
theorem ofList_eq_of_perm {entries' : List (κ × α)} (h : (entries.map (·.1)).Nodup)
    (hp : entries.Perm entries') : ofList entries = ofList entries' := by
  have h' : (entries'.map (·.1)).Nodup := (hp.map Prod.fst).nodup_iff.1 h
  exact ascending_ofList.eq_of_perm ascending_ofList
    ((perm_ofList h).trans (hp.trans (perm_ofList h').symm))

end Distinct

end ApiContract.Keyed
