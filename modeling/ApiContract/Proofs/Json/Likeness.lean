import ApiContract.Proofs.Document.Check
import ApiContract.Proofs.Keyed
import Mathlib.Data.List.Perm.Subperm

/-!
# Proofs/Json/Likeness — values that count as equal

Two values count as equal when they are one, or when they are the same document, where neither the
order of members nor the sign of a zero matters.  `Json.Likeness` is what is read off either
(`likeness_eq`, `likeness_same`): what is under a key of an object whose keys differ, what an array
lists, and what a map holds, whose keys are in an order of their own.
-/

namespace ApiContract

/-! ## Maps whose values are related -/

/-- **Entries with the same keys in the same order**, the values being related. -/
inductive Keyed.Rel {κ α β : Type} (A : α → β → Prop) : List (κ × α) → List (κ × β) → Prop
  | nil : Rel A [] []
  | cons {key : κ} {a : α} {b : β} {m : List (κ × α)} {m' : List (κ × β)} (h : A a b)
    (hm : Rel A m m') : Rel A ((key, a) :: m) ((key, b) :: m')

namespace Keyed

variable {κ α β : Type} {A : α → β → Prop} {m : List (κ × α)} {m' : List (κ × β)}

theorem Rel.refl {A : α → α → Prop} (hA : ∀ a, A a a) {m : List (κ × α)} : Rel A m m := by
  induction m with
  | nil => exact .nil
  | cons e m ih => exact .cons (hA e.2) ih

/-- Values that are related only when they are equal make equal maps. -/
theorem Rel.eq {A : α → α → Prop} {m m' : List (κ × α)} (h : Rel A m m')
    (hA : ∀ e ∈ m, ∀ b, A e.2 b → e.2 = b) : m = m' := by
  induction h with
  | nil => rfl
  | cons h _ ih =>
    obtain ⟨hfirst, hrest⟩ := List.forall_mem_cons.1 hA
    obtain rfl := hfirst _ h
    rw [ih hrest]

/-- Entries under names and the names' values, read back. -/
theorem Rel.of_map {κ' γ δ : Type} {B : γ → δ → Prop} {name : κ → κ'}
    (hn : Function.Injective name) {value : α → γ} {value' : β → δ}
    (hA : ∀ e ∈ m, ∀ e' ∈ m', B (value e.2) (value' e'.2) → A e.2 e'.2)
    (h : Rel B (m.map fun e => (name e.1, value e.2)) (m'.map fun e => (name e.1, value' e.2))) :
    Rel A m m' := by
  induction m generalizing m' with
  | nil =>
    cases m' with
    | nil => exact .nil
    | cons => cases h
  | cons e m ih =>
    obtain ⟨key, a⟩ := e
    cases m' with
    | nil => cases h
    | cons e' m' =>
      obtain ⟨key', b⟩ := e'
      simp only [List.map_cons] at h
      generalize hkey : name key = k at h
      generalize hkey' : name key' = k' at h
      cases h with
      | cons h hm =>
        obtain rfl := hn (hkey.trans hkey'.symm)
        refine .cons (hA _ List.mem_cons_self _ List.mem_cons_self h)
          (ih (fun e he e' he' => ?_) hm)
        exact hA e (List.mem_cons_of_mem _ he) e' (List.mem_cons_of_mem _ he')

end Keyed

/-- Elements one by one, by what members of the two lists have of each other. -/
theorem forall₂_of_map {α β γ δ : Type} {A : α → β → Prop} {B : γ → δ → Prop}
    {value : α → γ} {value' : β → δ} {as : List α} {bs : List β}
    (hA : ∀ a ∈ as, ∀ b ∈ bs, B (value a) (value' b) → A a b)
    (h : List.Forall₂ B (as.map value) (bs.map value')) :
    List.Forall₂ A as bs := by
  rw [List.forall₂_map_left_iff, List.forall₂_map_right_iff, List.forall₂_iff_zip] at h
  refine List.forall₂_iff_zip.2 ⟨h.1, fun {a b} hzip => ?_⟩
  obtain ⟨ha, hb⟩ := List.of_mem_zip hzip
  exact hA a ha b hb (h.2 hzip)

/-- What may be there is equal when it is equal where it is there. -/
theorem eq_of_optionRel {α : Type} {A : α → α → Prop} {x x' : Option α} (hA : ∀ a b, A a b → a = b)
    (h : Option.Rel A x x') : x = x' := by
  cases h with
  | some h => rw [hA _ _ h]
  | none => rfl

/-! ## What equal values share -/

namespace Json

/-- **What counts as equal values.**  Where the order of members is `free`, what is known of entries
one after the other is known of maps only: no key comes twice in them, and keys that are those of
the other map stand in its order. -/
structure Likeness (free : Prop) (R : Json → Json → Prop) : Prop where
  bool {b : Bool} {v : Json} : R (.bool b) v → v = .bool b
  int {n : Int} {fits : Fits n} {v : Json} : R (.number (.int n fits)) v → v = .number (.int n fits)
  float {x : Binary64} {v : Json} : R (.number (.float x)) v → ∃ y, v = .number (.float y)
  string {s : String} {v : Json} : R (.string s) v → v = .string s
  array {vs : List Json} {v : Json} : R (.array vs) v →
    ∃ vs', v = .array vs' ∧ List.Forall₂ R vs vs'
  object {ms : Members} {v : Json} : R (.object ms) v → ∃ ms', v = .object ms'
  record {ms ms' : Members} (key : String) : R (.object ms) (.object ms') → ms.keys.Nodup →
    Option.Rel R (ms.get? key) (ms'.get? key)
  entries {ms ms' : Members} : R (.object ms) (.object ms') →
    (free → ms.keys.Nodup ∧ (ms.keys.Perm ms'.keys → ms.keys = ms'.keys)) → Keyed.Rel R ms ms'

/-- **Equality**, whatever the order of members. -/
theorem likeness_eq : Likeness False Eq where
  bool h := h.symm
  int h := h.symm
  float {x _} h := ⟨x, h.symm⟩
  string h := h.symm
  array {vs _} h := ⟨vs, h.symm, List.forall₂_same.2 fun _ _ => rfl⟩
  object {ms _} h := ⟨ms, h.symm⟩
  record {ms ms'} key h _ := by
    obtain rfl := Json.object.inj h
    cases ms.get? key with
    | none => exact .none
    | some v => exact .some rfl
  entries {ms ms'} h _ := by
    obtain rfl := Json.object.inj h
    exact Keyed.Rel.refl fun _ => rfl

/-! ## The same document -/

section Same

variable {vs vs' : List Json} {ms ms' : Members} {key : String} {v v' : Json}

theorem sameItems_iff :
    sameItems vs vs' = true ↔ List.Forall₂ (fun v v' => v.same v' = true) vs vs' := by
  induction vs generalizing vs' with
  | nil =>
    rw [List.forall₂_nil_left_iff]
    cases vs' <;> simp [sameItems]
  | cons v vs ih =>
    cases vs' with
    | nil => exact iff_of_false (by simp [sameItems]) nofun
    | cons v' vs' => rw [sameItems, Bool.and_eq_true, ih, List.forall₂_cons]

theorem sameMembers_iff :
    sameMembers ms ms' = true ↔ ∀ m ∈ ms, ∃ v', ms'.get? m.1 = some v' ∧ m.2.same v' = true := by
  induction ms with
  | nil => exact iff_of_true (by rw [sameMembers]) nofun
  | cons m ms ih =>
    rw [sameMembers, Bool.and_eq_true, List.forall_mem_cons, ih]
    refine and_congr_left fun _ => ?_
    cases ms'.get? m.1 <;> simp

/-- The same objects have the same keys, where none comes twice in the first. -/
theorem keys_perm_of_same (h : (object ms).same (.object ms') = true) (hd : ms.keys.Nodup) :
    ms.keys.Perm ms'.keys := by
  rw [same, Bool.and_eq_true, beq_iff_eq, sameMembers_iff] at h
  obtain ⟨hlength, hmembers⟩ := h
  have hsub : ms.keys ⊆ ms'.keys := fun key hkey => by
    obtain ⟨m, hm, rfl⟩ := List.mem_map.1 hkey
    obtain ⟨v', hv', -⟩ := hmembers m hm
    exact Members.mem_keys_iff.2 ⟨v', hv'⟩
  have hle : ms'.keys.length ≤ ms.keys.length := by simp [Members.keys, hlength]
  exact (List.subperm_of_subset hd hsub).perm_of_length_le hle

/-- **The same under every key.** -/
theorem get?_same (h : (object ms).same (.object ms') = true) (hd : ms.keys.Nodup) (key : String) :
    Option.Rel (fun v v' => v.same v' = true) (ms.get? key) (ms'.get? key) := by
  have hkeys := keys_perm_of_same h hd
  cases hv : ms.get? key with
  | none =>
    rw [Members.get?_eq_none_iff, hkeys.mem_iff, ← Members.get?_eq_none_iff] at hv
    rw [hv]
    exact .none
  | some v =>
    rw [same, Bool.and_eq_true, sameMembers_iff] at h
    obtain ⟨v', hv', hsame⟩ := h.2 _ ((Members.get?_eq_some_iff hd).1 hv)
    rw [hv']
    exact .some hsame

/-- Objects with the same keys in the same order, by what is under each of them. -/
theorem rel_of_get? {R : Json → Json → Prop} (hd : ms.keys.Nodup) (hkeys : ms.keys = ms'.keys)
    (h : ∀ key, Option.Rel R (ms.get? key) (ms'.get? key)) : Keyed.Rel R ms ms' := by
  induction ms generalizing ms' with
  | nil =>
    obtain rfl := List.map_eq_nil_iff.1 hkeys.symm
    exact .nil
  | cons m ms ih =>
    obtain ⟨⟨key, v'⟩, ms', rfl, hkey, hrest⟩ := List.map_eq_cons_iff.1 hkeys.symm
    obtain ⟨k, v⟩ := m
    obtain rfl : key = k := hkey
    obtain ⟨hkey, hd⟩ := List.nodup_cons.1 hd
    have hfirst := h key
    rw [Members.get?, Members.get?, List.lookup_cons_self, List.lookup_cons_self] at hfirst
    cases hfirst with
    | some hv =>
      refine .cons hv (ih hd hrest.symm fun k => ?_)
      by_cases hk : k = key
      · subst hk
        have hkey' : k ∉ Members.keys ms' := fun hmem => hkey (hrest ▸ hmem)
        rw [Members.get?_eq_none_iff.2 hkey, Members.get?_eq_none_iff.2 hkey']
        exact .none
      · have hother := h k
        simpa only [Members.get?, List.lookup_cons, beq_false_of_ne hk] using hother

end Same

/-- **The same document**, where the order of members does not matter. -/
theorem likeness_same : Likeness True fun v v' => v.same v' = true where
  bool {b v} h := by
    cases v <;> simp [same] at h
    rw [h]
  int {n fits v} h := by
    cases v with
    | number k =>
      cases k <;> simp [same, Number.same] at h
      subst h
      rfl
    | _ => simp [same] at h
  float {x v} h := by
    cases v with
    | number k =>
      cases k <;> simp [same, Number.same] at h
      exact ⟨_, rfl⟩
    | _ => simp [same] at h
  string {s v} h := by
    cases v <;> simp [same] at h
    rw [h]
  array {vs v} h := by
    cases v with
    | array vs' =>
      rw [same, sameItems_iff] at h
      exact ⟨vs', rfl, h⟩
    | _ => simp [same] at h
  object {ms v} h := by
    cases v with
    | object ms' => exact ⟨ms', rfl⟩
    | _ => simp [same] at h
  record key h hd := get?_same h hd key
  entries h hfree := by
    obtain ⟨hd, hkeys⟩ := hfree trivial
    exact rel_of_get? hd (hkeys (keys_perm_of_same h hd)) (get?_same h hd)

/-! ## Reading equal values -/

namespace Likeness

variable {free : Prop} {R : Json → Json → Prop} {α : Type} {ms ms' : Members} {key : String}

theorem string_eq (hR : Likeness free R) {s s' : String} (h : R (.string s) (.string s')) :
    s = s' :=
  (Json.string.inj (hR.string h)).symm

theorem bool_eq (hR : Likeness free R) {b b' : Bool} (h : R (.bool b) (.bool b')) : b = b' :=
  (Json.bool.inj (hR.bool h)).symm

theorem signed_eq (hR : Likeness free R) {n n' : Signed64} (h : R (.ofSigned n) (.ofSigned n')) :
    n = n' := by
  have heq := Number.int.inj (Json.number.inj (hR.int h))
  exact Subtype.ext heq.symm

theorem unsigned_eq (hR : Likeness free R) {n n' : Unsigned64}
    (h : R (.ofUnsigned n) (.ofUnsigned n')) : n = n' := by
  have heq := Number.int.inj (Json.number.inj (hR.int h))
  exact Subtype.ext (Int.ofNat.inj heq.symm)

/-- What a list dumps as tells what its elements tell. -/
theorem list (hR : Likeness free R) {value : α → Json} {A : α → α → Prop} {as bs : List α}
    (h : R (.array (as.map value)) (.array (bs.map value)))
    (hA : ∀ a ∈ as, ∀ b ∈ bs, R (value a) (value b) → A a b) : List.Forall₂ A as bs := by
  obtain ⟨_, heq, hvs⟩ := hR.array h
  obtain rfl := Json.array.inj heq
  exact forall₂_of_map hA hvs

/-- What stands under a key. -/
theorem field (hR : Likeness free R) (h : R (.object ms) (.object ms')) (hd : ms.keys.Nodup)
    (key : String) {v v' : Json} (hv : ms.get? key = some v)
    (hv' : ms'.get? key = some v') : R v v' := by
  have hrel := hR.record key h hd
  rw [hv, hv'] at hrel
  cases hrel with
  | some h => exact h

/-- What may stand under a key. -/
theorem optional (hR : Likeness free R) (h : R (.object ms) (.object ms')) (hd : ms.keys.Nodup)
    (key : String) {value : α → Json} {A : α → α → Prop} {x x' : Option α}
    (hx : ms.get? key = x.map value) (hx' : ms'.get? key = x'.map value)
    (hA : ∀ a ∈ x, ∀ b ∈ x', R (value a) (value b) → A a b) : Option.Rel A x x' := by
  have hrel := hR.record key h hd
  rw [hx, hx'] at hrel
  cases x with
  | none =>
    cases x' with
    | none => exact .none
    | some => cases hrel
  | some a =>
    cases x' with
    | none => cases hrel
    | some b =>
      cases hrel with
      | some h => exact .some (hA a rfl b rfl h)

/-- **A map tells what its values tell.**  Where the order of members is free, it is that of the
keys. -/
theorem map {κ : Type} [Ord κ] [Std.OrientedOrd κ] [Std.LawfulEqOrd κ] (hR : Likeness free R)
    {name : κ → String} (hn : Function.Injective name) {value : α → Json} {A : α → α → Prop}
    {m m' : List (κ × α)} (hm : free → Keyed.Ascending m) (hm' : free → Keyed.Ascending m')
    (h : R (.object (m.map fun e => (name e.1, value e.2)))
      (.object (m'.map fun e => (name e.1, value e.2))))
    (hA : ∀ e ∈ m, ∀ e' ∈ m', R (value e.2) (value e'.2) → A e.2 e'.2) : Keyed.Rel A m m' := by
  have hkeys (m : List (κ × α)) :
      Members.keys (m.map fun e => (name e.1, value e.2)) = (m.map (·.1)).map name := by
    simp only [Members.keys, List.map_map]
    rfl
  refine Keyed.Rel.of_map hn hA (hR.entries h fun hfree => ?_)
  rw [hkeys, hkeys]
  refine ⟨(hm hfree).nodup.map hn, fun hp => congrArg _ ?_⟩
  exact (hm hfree).keys_eq_of_perm (hm' hfree) ((List.map_perm_map_iff hn).1 hp)

end Likeness

end Json

end ApiContract
