import ApiContract.Document.Check
import Mathlib.Data.List.Forall2
import Mathlib.Data.List.Nodup

/-!
# Proofs/Document/Check — when a check passes

Whether a check passes is a condition on the document alone: the place it is told for has no part in
it.  `Members.KeysAre` is the condition of the key check, and `Checked.mapM_eq_ok_iff` reads a check
of each element of a list as one relation between two lists.
-/

namespace ApiContract

variable {α β : Type} {p : Location}

/-- A refusal never passes. -/
@[simp] theorem refuse_ne_ok {cause : Defect.Cause} {a : α} : refuse p cause ≠ .ok a := nofun

/-- A list is split at its first element or at a later one. -/
theorem exists_split_cons_iff {Q : List α → α → Prop} {a : α} {as : List α} :
    (∃ before b after, a :: as = before ++ b :: after ∧ Q before b) ↔
      Q [] a ∨ ∃ before b after, as = before ++ b :: after ∧ Q (a :: before) b := by
  constructor
  · rintro ⟨before, b, after, heq, h⟩
    cases before with
    | nil =>
      cases heq
      exact .inl h
    | cons _ before =>
      cases heq
      exact .inr ⟨before, b, after, rfl, h⟩
  · rintro (h | ⟨before, b, after, rfl, h⟩)
    · exact ⟨[], a, as, rfl, h⟩
    · exact ⟨a :: before, b, after, rfl, h⟩

namespace Checked

/-- **A list is checked element by element**: it passes when each element does. -/
theorem mapM_eq_ok_iff {f : α → Checked β} {as : List α} {bs : List β} :
    as.mapM f = .ok bs ↔ List.Forall₂ (fun a b => f a = .ok b) as bs := by
  induction as generalizing bs with
  | nil =>
    rw [List.mapM_nil, pure_eq_ok, List.forall₂_nil_left_iff]
    exact eq_comm
  | cons a as ih =>
    rw [List.mapM_cons, bind_eq_ok, List.forall₂_cons_left_iff]
    refine exists_congr fun b => ?_
    simp only [bind_eq_ok, pure_eq_ok, ih]
    constructor
    · rintro ⟨hb, bs, hbs, rfl⟩
      exact ⟨bs, hb, hbs, rfl⟩
    · rintro ⟨bs, hb, hbs, rfl⟩
      exact ⟨hb, bs, hbs, rfl⟩

/-- The same, each element's check being read as a relation. -/
theorem mapM_eq_ok_iff_of {f : α → Checked β} {R : α → β → Prop} (hf : ∀ a b, f a = .ok b ↔ R a b)
    {as : List α} {bs : List β} : as.mapM f = .ok bs ↔ List.Forall₂ R as bs := by
  rw [mapM_eq_ok_iff]
  simp only [hf]

/-- Elements checked with their indices, which only the places of their defects show. -/
theorem mapM_zipIdx_eq_ok_iff {f : α × Nat → Checked β} {R : α → β → Prop}
    (hf : ∀ a b, f a = .ok b ↔ R a.1 b) {as : List α} {bs : List β} :
    as.zipIdx.mapM f = .ok bs ↔ List.Forall₂ R as bs := by
  rw [mapM_eq_ok_iff_of hf, ← List.forall₂_map_left_iff (R := R) (f := Prod.fst),
    List.zipIdx_map_fst]

/-- Each element of a list is checked, for nothing but to pass. -/
theorem forM_eq_ok_iff {ε : Type} {f : α → Except ε Unit} {as : List α} {u : Unit} :
    as.forM f = .ok u ↔ ∀ a ∈ as, f a = .ok () := by
  induction as with
  | nil => simp [List.forM, pure, Except.pure]
  | cons a as ih =>
    change (f a >>= fun _ => as.forM f) = _ ↔ _
    rw [bind_eq_ok, List.forall_mem_cons]
    simp only [ih, exists_and_right]
    exact and_congr_left fun _ => ⟨fun ⟨_, h⟩ => h, fun h => ⟨_, h⟩⟩

/-- One check after another fails when the first does, or the second on what the first yields. -/
theorem bind_eq_error_iff {ε : Type} {e : ε} {x : Except ε α} {f : α → Except ε β} :
    (x >>= f) = .error e ↔ x = .error e ∨ ∃ a, x = .ok a ∧ f a = .error e := by
  cases x <;> simp [bind, Except.bind]

/-- **A list is checked up to the first element that fails.** -/
theorem forM_eq_error_iff {ε : Type} {e : ε} {f : α → Except ε Unit} {as : List α} :
    as.forM f = .error e ↔
      ∃ before a after, as = before ++ a :: after ∧
        (∀ b ∈ before, f b = .ok ()) ∧ f a = .error e := by
  induction as with
  | nil => simp [List.forM, pure, Except.pure]
  | cons a as ih =>
    change (f a >>= fun _ => as.forM f) = _ ↔ _
    rw [bind_eq_error_iff, exists_split_cons_iff, ih]
    simp only [List.forall_mem_cons]
    refine or_congr (and_iff_right (List.forall_mem_nil _)).symm ⟨?_, ?_⟩
    · rintro ⟨_, ha, before, b, after, heq, hbefore, hb⟩
      exact ⟨before, b, after, heq, ⟨ha, hbefore⟩, hb⟩
    · rintro ⟨before, b, after, heq, ⟨ha, hbefore⟩, hb⟩
      exact ⟨(), ha, before, b, after, heq, hbefore, hb⟩

/-- A mapped check fails when the check does. -/
theorem map_eq_error_iff {ε : Type} {e : ε} {x : Except ε α} {f : α → β} :
    x.map f = .error e ↔ x = .error e := by
  cases x <;> simp [Except.map]

/-- Telling an error in other words makes nothing pass. -/
theorem mapError_eq_ok_iff {ε ε' : Type} {f : ε → ε'} {x : Except ε α} {a : α} :
    x.mapError f = .ok a ↔ x = .ok a := by
  cases x <;> simp [Except.mapError]

/-- An error told in other words was one before. -/
theorem mapError_eq_error_iff {ε ε' : Type} {f : ε → ε'} {x : Except ε α} {e : ε'} :
    x.mapError f = .error e ↔ ∃ e', x = .error e' ∧ f e' = e := by
  cases x <;> simp [Except.mapError]

end Checked

/-- A list is mapped when each of its elements is. -/
theorem mapM_eq_some_iff {f : α → Option β} {as : List α} {bs : List β} :
    as.mapM f = some bs ↔ List.Forall₂ (fun a b => f a = some b) as bs := by
  induction as generalizing bs with
  | nil =>
    rw [List.mapM_nil, List.forall₂_nil_left_iff]
    exact Option.some_inj.trans eq_comm
  | cons a as ih =>
    rw [List.mapM_cons, List.forall₂_cons_left_iff]
    simp only [Option.bind_eq_bind, Option.bind_eq_some_iff, Option.pure_def, Option.some_inj, ih]
    refine exists_congr fun b => ?_
    constructor
    · rintro ⟨hb, bs, hbs, rfl⟩
      exact ⟨bs, hb, hbs, rfl⟩
    · rintro ⟨bs, hb, hbs, rfl⟩
      exact ⟨hb, bs, hbs, rfl⟩

/-- Something is related to each element exactly when some list is related to all of them in
order. -/
theorem exists_forall₂_iff {R : α → β → Prop} {as : List α} :
    (∃ bs, List.Forall₂ R as bs) ↔ ∀ a ∈ as, ∃ b, R a b := by
  induction as with
  | nil => simp
  | cons a as ih =>
    rw [List.forall_mem_cons, ← ih]
    constructor
    · rintro ⟨_, h⟩
      obtain ⟨b, bs, hb, hbs, -⟩ := List.forall₂_cons_left_iff.1 h
      exact ⟨⟨b, hb⟩, bs, hbs⟩
    · rintro ⟨⟨b, hb⟩, bs, hbs⟩
      exact ⟨b :: bs, .cons hb hbs⟩

/-- Each element of a list is related to one of the list it was made of. -/
theorem exists_mem_of_forall₂ {R : α → β → Prop} {as : List α} {bs : List β}
    (h : List.Forall₂ R as bs) {b : β} (hb : b ∈ bs) : ∃ a ∈ as, R a b := by
  induction h with
  | nil => cases hb
  | @cons a _ _ _ hab _ ih =>
    rcases List.mem_cons.1 hb with rfl | hb
    · exact ⟨a, List.mem_cons_self, hab⟩
    · obtain ⟨a', ha', h⟩ := ih hb
      exact ⟨a', List.mem_cons_of_mem _ ha', h⟩

/-- Each element of a list is related to one of the list that was made of it. -/
theorem exists_mem_right_of_forall₂ {R : α → β → Prop} {as : List α} {bs : List β}
    (h : List.Forall₂ R as bs) {a : α} (ha : a ∈ as) : ∃ b ∈ bs, R a b :=
  have hflip : List.Forall₂ (flip R) bs as := .flip h
  exists_mem_of_forall₂ hflip ha

/-- Related lists have elements of related kinds together. -/
theorem exists_mem_iff_of_forall₂ {R : α → β → Prop} {P : α → Prop} {Q : β → Prop} {as : List α}
    {bs : List β} (h : List.Forall₂ R as bs) (hr : ∀ a b, R a b → (P a ↔ Q b)) :
    (∃ a ∈ as, P a) ↔ ∃ b ∈ bs, Q b := by
  induction h with
  | nil => simp
  | cons hab _ ih => simp only [List.exists_mem_cons_iff, hr _ _ hab, ih]

/-- Elements given by those of another list, which all have a property. -/
theorem forall₂_eq_map_iff {f : β → α} {P : β → Prop} {as : List α} {bs : List β} :
    List.Forall₂ (fun a b => a = f b ∧ P b) as bs ↔ as = bs.map f ∧ ∀ b ∈ bs, P b := by
  induction bs generalizing as with
  | nil => simp
  | cons b bs ih =>
    simp only [List.forall₂_cons_right_iff, ih, List.map_cons, List.forall_mem_cons]
    constructor
    · rintro ⟨_, _, ⟨rfl, hb⟩, ⟨rfl, hbs⟩, rfl⟩
      exact ⟨rfl, hb, hbs⟩
    · rintro ⟨rfl, hb, hbs⟩
      exact ⟨_, _, ⟨rfl, hb⟩, ⟨rfl, hbs⟩, rfl⟩

/-- Nothing is left out of a list when all of it is there. -/
theorem filter_not_contains_eq_nil_iff {xs ys : List String} :
    (xs.filter fun x => !ys.contains x) = [] ↔ ∀ x ∈ xs, x ∈ ys := by
  simp [List.filter_eq_nil_iff]

/-- What is found under a key is one of the pairs, and is all there is under it where no key comes
twice. -/
theorem lookup_eq_some_iff {α : Type} {pairs : List (String × α)} {key : String} {a : α}
    (h : (pairs.map (·.1)).Nodup) : pairs.lookup key = some a ↔ (key, a) ∈ pairs := by
  induction pairs with
  | nil => exact iff_of_false nofun List.not_mem_nil
  | cons first rest ih =>
    obtain ⟨k, b⟩ := first
    obtain ⟨hk, hnodup⟩ := List.nodup_cons.1 h
    rw [List.lookup_cons, List.mem_cons, ← ih hnodup, Prod.mk.injEq]
    by_cases hkey : key = k
    · subst hkey
      have hnone : rest.lookup key ≠ some a :=
        fun ha => hk (List.mem_map.2 ⟨_, (ih hnodup).1 ha, rfl⟩)
      simp [hnone, eq_comm]
    · simp [hkey, beq_false_of_ne hkey]

namespace Members

variable {ms : Members} {key : String} {v : Json} {required optional : List String}

/-- The keys of an object are those that have a value. -/
theorem mem_keys_iff : key ∈ ms.keys ↔ ∃ v, ms.get? key = some v := by
  rw [← Option.isSome_iff_exists, get?, List.lookup_isSome_iff, keys, List.mem_map]
  refine exists_congr fun m => and_congr_right fun _ => ?_
  rw [beq_iff_eq, eq_comm]

@[simp] theorem has_iff : ms.has key = true ↔ key ∈ ms.keys := by
  rw [has, List.contains_iff_mem]

theorem get?_eq_none_iff : ms.get? key = none ↔ key ∉ ms.keys := by
  rw [mem_keys_iff, Option.eq_none_iff_forall_ne_some, not_exists]

/-- What is under a key is in the object, and is all of it where no key comes twice. -/
theorem get?_eq_some_iff (h : ms.keys.Nodup) : ms.get? key = some v ↔ (key, v) ∈ ms :=
  lookup_eq_some_iff h

/-- Members read in order have the names of what was read. -/
theorem keys_eq_of_forall₂ {name : β → String} {bs : List β}
    (h : List.Forall₂ (fun m b => m.1 = name b) ms bs) : ms.keys = bs.map name := by
  induction h with
  | nil => rfl
  | cons hm _ ih => exact congrArg₂ List.cons hm ih

/-- Members of different keys are read as entries of different keys. -/
theorem nodup_of_forall₂ {name : α → String} {entries : List (α × β)} (hdistinct : ms.keys.Nodup)
    (h : List.Forall₂ (fun m e => m.1 = name e.1) ms entries) : (entries.map (·.1)).Nodup := by
  have hkeys : ms.keys = (entries.map (·.1)).map name := by
    rw [keys_eq_of_forall₂ h, List.map_map]
    rfl
  exact List.Nodup.of_map name (hkeys ▸ hdistinct)

/-- **The keys of an object are these**: every required one, and none beside those and the optional
ones. -/
structure KeysAre (ms : Members) (required optional : List String) : Prop where
  complete : ∀ key ∈ required, key ∈ ms.keys
  known : ∀ key ∈ ms.keys, key ∈ required ∨ key ∈ optional

/-- An object of these keys has no keys beside them. -/
theorem KeysAre.among (h : ms.KeysAre required optional) {all : List String}
    (ha : ∀ key ∈ required ++ optional, key ∈ all) : ms.KeysAre [] all :=
  ⟨nofun, fun key hk => .inr (ha key (List.mem_append.2 (h.known key hk)))⟩

/-- Only which keys there are matters, in whatever order. -/
theorem KeysAre.congr (h : ms.KeysAre required optional) {ms' : Members}
    (hkeys : ∀ key, key ∈ ms.keys ↔ key ∈ ms'.keys) : ms'.KeysAre required optional :=
  ⟨fun key hkey => (hkeys key).1 (h.complete key hkey),
    fun key hkey => h.known key ((hkeys key).2 hkey)⟩

/-- What must be there may as well be called tolerated, where it is there. -/
theorem KeysAre.single_iff : ms.KeysAre [key] [] ↔ key ∈ ms.keys ∧ ms.KeysAre [] [key] := by
  constructor
  · intro h
    exact ⟨h.complete key (List.mem_singleton_self key), h.among fun _ hk => hk⟩
  · rintro ⟨hk, h⟩
    exact ⟨fun k hm => List.mem_singleton.1 hm ▸ hk, fun k hm => (h.known k hm).symm⟩

/-- **The key check passes** when the keys are the required ones and among those and the optional
ones. -/
theorem checkKeys_eq_ok_iff {u : Unit} :
    ms.checkKeys p required optional = .ok u ↔ ms.KeysAre required optional := by
  unfold checkKeys
  dsimp only
  split_ifs with hm hu
  · refine iff_of_false refuse_ne_ok fun h => hm ?_
    refine List.filter_eq_nil_iff.2 fun key hk => ?_
    simpa using h.complete key hk
  · refine iff_of_false refuse_ne_ok fun h => hu ?_
    refine List.filter_eq_nil_iff.2 fun key hk => ?_
    simpa [or_iff_not_imp_left] using h.known key hk
  · refine iff_of_true rfl ⟨fun key hk => ?_, fun key hk => ?_⟩
    · simpa using List.filter_eq_nil_iff.1 (not_not.1 hm) key hk
    · simpa [or_iff_not_imp_left] using List.filter_eq_nil_iff.1 (not_not.1 hu) key hk

/-- The keys of given members are looked at by the check itself. -/
theorem KeysAre.of_checkKeys (h : ms.checkKeys "" required optional = .ok ()) :
    ms.KeysAre required optional :=
  checkKeys_eq_ok_iff.1 h

/-- A member that is taken is the one under the key. -/
theorem fetch_eq_ok_iff : ms.fetch p key = .ok v ↔ ms.get? key = some v := by
  unfold fetch
  split <;> simp_all

end Members

namespace Json

variable {v : Json}

/-- Only objects pass for objects. -/
theorem expectObject_eq_ok_iff {ms : Members} : v.expectObject p = .ok ms ↔ v = .object ms := by
  cases v <;> simp [expectObject]

/-- Only arrays pass for arrays. -/
theorem expectArray_eq_ok_iff {items : List Json} :
    v.expectArray p = .ok items ↔ v = .array items := by
  cases v <;> simp [expectArray]

theorem asString?_eq_some_iff {s : String} : v.asString? = some s ↔ v = .string s := by
  cases v <;> simp [asString?]

theorem asBool?_eq_some_iff {b : Bool} : v.asBool? = some b ↔ v = .bool b := by
  cases v <;> simp [asBool?]

theorem asArray?_eq_some_iff {items : List Json} : v.asArray? = some items ↔ v = .array items := by
  cases v <;> simp [asArray?]

/-- A text passes when it is the expected one. -/
theorem checkText_eq_ok_iff {s : String} {u : Unit} : v.checkText p s = .ok u ↔ v = .string s := by
  unfold checkText
  split_ifs with h
  · exact iff_of_true rfl (asString?_eq_some_iff.1 h)
  · exact iff_of_false refuse_ne_ok fun e => h (asString?_eq_some_iff.2 e)

/-- A value is allowed when it is the same as one of the list. -/
theorem checkOneOf_eq_ok_iff {allowed : List Json} {u : Unit} :
    v.checkOneOf p allowed = .ok u ↔ ∃ w ∈ allowed, w.same v = true := by
  unfold checkOneOf
  split_ifs with h
  · exact iff_of_true rfl (List.any_eq_true.1 h)
  · exact iff_of_false refuse_ne_ok fun hw => h (List.any_eq_true.2 hw)

/-- The same flag is that flag itself. -/
theorem same_bool_iff {b : Bool} : (bool b).same v = true ↔ v = bool b := by
  cases v <;> simp [same]
  exact eq_comm

/-- What passes for a flag is one, and is read as it stands. -/
theorem expectFlag_eq_ok_iff {b : Bool} : v.expectFlag p = .ok b ↔ v = .bool b := by
  simp only [expectFlag, Checked.bind_eq_ok, Checked.pure_eq_ok, checkOneOf_eq_ok_iff,
    List.exists_mem_cons_iff, same_bool_iff, exists_const]
  constructor
  · rintro ⟨rfl | rfl | ⟨_, hnil, -⟩, rfl⟩
    · rfl
    · rfl
    · exact absurd hnil List.not_mem_nil
  · rintro rfl
    cases b <;> simp [asBool?]

/-- A place for a text that may be absent or null: the text it gives. -/
def IsOptionalText (v : Option Json) (text : Option String) : Prop :=
  (v = none ∨ v = some null) ∧ text = none ∨ ∃ s, v = some (string s) ∧ text = some s

/-- A text that may be left out is read as the grammar has it. -/
theorem expectOptionalText_eq_ok_iff {v : Option Json} {text : Option String} :
    expectOptionalText p v = .ok text ↔ IsOptionalText v text := by
  unfold expectOptionalText IsOptionalText
  split <;> simp_all [eq_comm (b := text)]

end Json

/-! ## Names -/

/-- A name is allowed when the list has it. -/
theorem checkName_eq_ok_iff {allowed : List String} {s : String} {u : Unit} :
    checkName p allowed s = .ok u ↔ s ∈ allowed := by
  unfold checkName
  split_ifs with h
  · exact iff_of_true rfl (List.contains_iff_mem.1 h)
  · exact iff_of_false refuse_ne_ok fun hs => h (List.contains_iff_mem.2 hs)

/-- **A name is read when it is a key's own**: the other spellings that a reader of keys takes are
off the list of names. -/
theorem readName_eq_ok_iff {κ : Type} {name : κ → String} {all : List κ}
    {parse? : String → Option κ} (hparse : ∀ key ∈ all, parse? (name key) = some key) {s : String}
    {key : κ} :
    readName p name all parse? s = .ok key ↔ key ∈ all ∧ s = name key := by
  simp only [readName, Checked.bind_eq_ok, checkName_eq_ok_iff, exists_const]
  constructor
  · rintro ⟨hs, h⟩
    obtain ⟨key', hmem, rfl⟩ := List.mem_map.1 hs
    rw [hparse key' hmem] at h
    obtain rfl := Checked.pure_eq_ok.1 h
    exact ⟨hmem, rfl⟩
  · rintro ⟨hmem, rfl⟩
    rw [hparse key hmem]
    exact ⟨List.mem_map_of_mem hmem, rfl⟩

end ApiContract
