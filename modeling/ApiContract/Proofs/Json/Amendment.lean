import ApiContract.Proofs.Document.Check

/-!
# Proofs/Json/Amendment — what comes after a refusal

A list is read element by element, and what comes after an element that is refused is not looked at
(`Checked.RefusedAlike.mapM`).  So an object may be amended after a member that is refused, or
within one, and an array after an element (`Json.AmendedObject`, `Json.AmendedArray`), and the
reading is refused alike.  A field of a record is amended in its place (`Json.AmendedField`): the
keys stay, and what stands under the others.
-/

namespace ApiContract

variable {α β : Type} {p : Location} {key : String} {v v' : Json} {ms ms' : Members}

/-! ## Checks refused alike -/

/-- **Two checks refused alike**: both are refused, for the same defect. -/
def Checked.RefusedAlike (x y : Checked α) : Prop := ∃ d, x = .error d ∧ y = .error d

namespace Checked.RefusedAlike

variable {x y : Checked α} {f g : α → Checked β}

/-- A check that is refused is refused as it is. -/
theorem refl (h : ∃ d, x = .error d) : RefusedAlike x x := h.imp fun _ hd => ⟨hd, hd⟩

/-- What comes after a refusal does not matter. -/
theorem bind (h : RefusedAlike x y) : RefusedAlike (x >>= f) (y >>= g) := by
  obtain ⟨d, rfl, rfl⟩ := h
  exact ⟨d, rfl, rfl⟩

/-- Two steps that are refused alike, whatever comes after. -/
theorem bind_bind {γ : Type} {k k' : β → Checked γ} (h : RefusedAlike (x >>= f) (y >>= g)) :
    RefusedAlike (x >>= fun a => f a >>= k) (y >>= fun a => g a >>= k') := by
  rw [← bind_assoc, ← bind_assoc]
  exact h.bind

theorem map {k : α → β} (h : RefusedAlike x y) : RefusedAlike (x.map k) (y.map k) := by
  obtain ⟨d, rfl, rfl⟩ := h
  exact ⟨d, rfl, rfl⟩

/-- What comes after the same check: that is refused, or what comes after it alike. -/
theorem after (h : ∀ a, RefusedAlike (f a) (g a)) : RefusedAlike (x >>= f) (x >>= g) := by
  cases x with
  | error d => exact ⟨d, rfl, rfl⟩
  | ok a => exact h a

/-- **What comes after an element that is refused does not matter.** -/
theorem mapM {f : α → Checked β} {before after after' : List α} {a a' : α}
    (h : RefusedAlike (f a) (f a')) :
    RefusedAlike ((before ++ a :: after).mapM f) ((before ++ a' :: after').mapM f) := by
  simp only [List.mapM_append, List.mapM_cons]
  exact .after fun _ => (h.bind).bind

/-- So it is for elements that are read with their numbers. -/
theorem mapM_zipIdx {f : α × Nat → Checked β} {before after after' : List α} {a : α}
    (h : ∃ d, f (a, before.length) = .error d) :
    RefusedAlike ((before ++ a :: after).zipIdx.mapM f)
      ((before ++ a :: after').zipIdx.mapM f) := by
  simp only [List.zipIdx_append, List.zipIdx_cons, Nat.zero_add]
  exact mapM (refl h)

/-- A list of one element is refused as the element is. -/
theorem of_singleton {γ : Type} {f : α → Checked β} {k : List β → γ} {a : α}
    (h : ∃ d, (do let bs ← [a].mapM f; return k bs) = Except.error d) :
    RefusedAlike (f a) (f a) := by
  obtain ⟨d, h⟩ := h
  cases hf : f a with
  | error d => exact ⟨d, rfl, rfl⟩
  | ok b =>
    rw [List.mapM_cons, List.mapM_nil, hf] at h
    cases h

end Checked.RefusedAlike

/-! ## Fields -/

/-- **Members with another value under a key**, and all else as it was. -/
structure Members.Replaces (key : String) (v v' : Json) (ms ms' : Members) : Prop where
  keys : ms'.keys = ms.keys
  old : ms.get? key = some v
  new : ms'.get? key = some v'
  others : ∀ k, k ≠ key → ms'.get? k = ms.get? k

namespace Members.Replaces

/-- A value replaced in its place. -/
theorem of_append {before after : Members} (h : key ∉ before.keys) :
    Replaces key v v' (before ++ (key, v) :: after) (before ++ (key, v') :: after) := by
  induction before with
  | nil =>
    refine ⟨rfl, List.lookup_cons_self, List.lookup_cons_self, fun k hk => ?_⟩
    rw [get?, get?, List.nil_append, List.nil_append, List.lookup_cons, List.lookup_cons,
      beq_false_of_ne hk]
  | cons m before ih =>
    obtain ⟨hm, hbefore⟩ := not_or.1 fun hmem => h (List.mem_cons.2 hmem)
    obtain ⟨hkeys, hold, hnew, hothers⟩ := ih hbefore
    have skip (rest : Members) : get? (m :: rest) key = rest.get? key := by
      rw [get?, List.lookup_cons, beq_false_of_ne hm]
      rfl
    refine ⟨congrArg (m.1 :: ·) hkeys, (skip _).trans hold, (skip _).trans hnew, fun k hk => ?_⟩
    rw [get?, get?, List.cons_append, List.cons_append, List.lookup_cons, List.lookup_cons]
    cases k == m.1 with
    | true => rfl
    | false => exact hothers k hk

/-- The keys are the same. -/
theorem has_eq (h : ms.Replaces key v v' ms') {k : String} : ms'.has k = ms.has k :=
  by rw [has, has, h.keys]

theorem checkKeys_eq (h : ms.Replaces key v v' ms') {required optional : List String} :
    ms'.checkKeys p required optional = ms.checkKeys p required optional := by
  simp only [checkKeys, h.has_eq, h.keys]

/-- What stands under another key is taken as before. -/
theorem fetch_eq (h : ms.Replaces key v v' ms') {k : String} (hk : k ≠ key) :
    ms'.fetch p k = ms.fetch p k := by
  rw [fetch, fetch, h.others k hk]

/-- The value before is what is taken under the key. -/
theorem fetch_old_bind (h : ms.Replaces key v v' ms') {f : Json → Checked α} :
    (ms.fetch p key >>= f) = f v := by
  rw [fetch, h.old]
  rfl

/-- The value in its place is what is taken afterwards. -/
theorem fetch_new_bind (h : ms.Replaces key v v' ms') {f : Json → Checked α} :
    (ms'.fetch p key >>= f) = f v' := by
  rw [fetch, h.new]
  rfl

end Members.Replaces

/-! ## Amended values -/

namespace Json

/-- **A record amended in a field.** -/
inductive AmendedField (key : String) (A : Json → Json → Prop) : Json → Json → Prop
  | mk {ms ms' : Members} {v v' : Json} (hr : ms.Replaces key v v' ms') (h : A v v') :
    AmendedField key A (.object ms) (.object ms')

/-- **An object amended** after a member that is refused, or within a member. -/
inductive AmendedObject (refused : String × Json → Prop) (A : String → Json → Json → Prop) :
    Json → Json → Prop
  | later {before after after' : Members} {m : String × Json} (h : refused m) :
    AmendedObject refused A (.object (before ++ m :: after)) (.object (before ++ m :: after'))
  | within {before after : Members} {name : String} {v v' : Json} (h : A name v v') :
    AmendedObject refused A
      (.object (before ++ (name, v) :: after)) (.object (before ++ (name, v') :: after))

/-- **An array amended** after an element that is refused. -/
inductive AmendedArray (refused : Nat → Json → Prop) : Json → Json → Prop
  | later {before after after' : List Json} {v : Json} (h : refused before.length v) :
    AmendedArray refused (.array (before ++ v :: after)) (.array (before ++ v :: after'))

theorem expectObject_bind {f : Members → Checked α} : ((object ms).expectObject p >>= f) = f ms :=
  rfl

open Checked (RefusedAlike)

/-- **Members are read alike up to the one that is refused.** -/
theorem AmendedObject.refusedAlike {refused : String × Json → Prop}
    {A : String → Json → Json → Prop} (h : AmendedObject refused A v v')
    {f : String × Json → Checked α} (hf : ∀ m, refused m → RefusedAlike (f m) (f m))
    (hA : ∀ name v v', A name v v' → RefusedAlike (f (name, v)) (f (name, v')))
    {k : List α → Checked β} :
    RefusedAlike (v.expectObject p >>= fun ms => ms.mapM f >>= k)
      (v'.expectObject p >>= fun ms => ms.mapM f >>= k) := by
  cases h with
  | later h => exact (RefusedAlike.mapM (hf _ h)).bind
  | within h => exact (RefusedAlike.mapM (hA _ _ _ h)).bind

end Json

end ApiContract
