import ApiContract.Proofs.Document.Check
import ApiContract.Proofs.Json.Reader
import ApiContract.Proofs.Keyed
import Mathlib.Data.List.Perm.Basic

/-!
# Proofs/Json/Reordering — documents that differ in the order of members

`Part` names the parts of a document that are walked; all else is taken as it stands.
`Json.Reordered` relates documents that differ in the order of the members of walked objects, at any
depth.  What is read of members one by one comes in the other order then
(`Members.Shuffled.exists_forall₂`), and as it is put into a map, the map is the same:
**`Members.Shuffled.exists_ofList`**.
-/

namespace ApiContract

/-! ## The parts of a document -/

/-- The parts of a document that are walked, each with a name of its own, and values taken as they
stand. -/
inductive Part where
  | document | info | tags | tag | components | definitions | node | properties | branches
  | paths | path | operation | parameters | parameter | body | responses | response | content
  | entry | verbatim
  deriving DecidableEq

namespace Part

/-- The part under a key of an object. -/
def member : Part → String → Part
  | document, "info" => info
  | document, "tags" => tags
  | document, "components" => components
  | document, "paths" => paths
  | components, "schemas" => definitions
  | definitions, _ => node
  | node, "properties" => properties
  | node, "additionalProperties" => node
  | node, "items" => node
  | node, "oneOf" => branches
  | properties, _ => node
  | paths, _ => path
  | path, _ => operation
  | operation, "parameters" => parameters
  | operation, "requestBody" => body
  | operation, "responses" => responses
  | responses, _ => response
  | body, "content" => content
  | response, "content" => content
  | content, _ => entry
  | entry, "schema" => node
  | _, _ => verbatim

/-- The part that the elements of an array are. -/
def element : Part → Part
  | tags => tag
  | branches => node
  | parameters => parameter
  | _ => verbatim

end Part

/-! ## Reordered documents -/

/-- **Documents that differ in the order of members**: a walked object has the same keys, in any
order, and under each key the same value but for the order of members in it.  Arrays keep their
order. -/
inductive Json.Reordered : Part → Json → Json → Prop
  | same {part : Part} {v : Json} : Reordered part v v
  | array {part : Part} {vs vs' : List Json} (length : vs.length = vs'.length)
    (elements : ∀ (i : Nat) v v', vs[i]? = some v → vs'[i]? = some v' →
      Reordered part.element v v') :
    Reordered part (.array vs) (.array vs')
  | object {part : Part} {ms ms' : Members} (walked : part ≠ .verbatim)
    (keys : ms.keys.Perm ms'.keys)
    (values : ∀ key v v', ms.get? key = some v → ms'.get? key = some v' →
      Reordered (part.member key) v v') :
    Reordered part (.object ms) (.object ms')

/-- Values without repeated keys that differ in the order of members. -/
structure Json.Shuffled (part : Part) (v v' : Json) : Prop where
  distinct : v.HasDistinctKeys
  distinct' : v'.HasDistinctKeys
  reordered : Reordered part v v'

/-- Members that are those of another object, in any order, the values being shuffled. -/
structure Members.Shuffled (part : Part) (ms ms' : Members) : Prop where
  distinct : ms.keys.Nodup
  keys : ms.keys.Perm ms'.keys
  values : ∀ key v v', ms.get? key = some v → ms'.get? key = some v' →
    Json.Shuffled (part.member key) v v'

namespace Json

variable {part : Part} {v v' : Json} {vs : List Json} {ms ms' : Members}

theorem Reordered.symm (h : Reordered part v v') : Reordered part v' v := by
  induction h with
  | same => exact .same
  | array length _ ih => exact .array length.symm fun i v' v hv' hv => ih i v v' hv hv'
  | object walked keys _ ih =>
    exact .object walked keys.symm fun key v' v hv' hv => ih key v v' hv hv'

theorem Reordered.trans {v'' : Json} (h : Reordered part v v') (h' : Reordered part v' v'') :
    Reordered part v v'' := by
  induction h generalizing v'' with
  | same => exact h'
  | @array _ vs vs' length elements ih =>
    cases h' with
    | same => exact .array length elements
    | array length' elements' =>
      refine .array (length.trans length') fun i v v'' hv hv'' => ?_
      have hlt : i < vs'.length := length ▸ (List.getElem?_eq_some_iff.1 hv).1
      have hv' : vs'[i]? = some vs'[i] := List.getElem?_eq_getElem hlt
      exact ih i v _ hv hv' (elements' i _ v'' hv' hv'')
  | object walked keys values ih =>
    cases h' with
    | same => exact .object walked keys values
    | object _ keys' values' =>
      refine .object walked (keys.trans keys') fun key v v'' hv hv'' => ?_
      obtain ⟨v', hv'⟩ := Members.mem_keys_iff.1 (keys.mem_iff.1 (Members.mem_keys_iff.2 ⟨v, hv⟩))
      exact ih key v v' hv hv' (values' key v' v'' hv' hv'')

/-- **Permuting the members** of a walked object reorders it. -/
theorem Reordered.of_perm (walked : part ≠ .verbatim) (hd : ms.keys.Nodup) (hp : ms.Perm ms') :
    Reordered part (.object ms) (.object ms') := by
  have hkeys : ms.keys.Perm ms'.keys := hp.map Prod.fst
  refine .object walked hkeys fun key v v' hv hv' => ?_
  have hmem := hp.mem_iff.1 ((Members.get?_eq_some_iff hd).1 hv)
  have hv : ms'.get? key = some v := (Members.get?_eq_some_iff (hkeys.nodup_iff.1 hd)).2 hmem
  obtain rfl := Option.some.inj (hv.symm.trans hv')
  exact .same

/-- Reordering the first value of a walked object reorders it. -/
theorem Reordered.first {key : String} (walked : part ≠ .verbatim)
    (h : Reordered (part.member key) v v') :
    Reordered part (.object ((key, v) :: ms)) (.object ((key, v') :: ms)) := by
  refine .object walked (.refl _) fun k w w' hw hw' => ?_
  rw [Members.get?, List.lookup_cons] at hw hw'
  by_cases hk : k = key
  · subst hk
    rw [beq_self_eq_true] at hw hw'
    obtain rfl := Option.some.inj hw
    obtain rfl := Option.some.inj hw'
    exact h
  · rw [beq_false_of_ne hk] at hw hw'
    obtain rfl := Option.some.inj (hw.symm.trans hw')
    exact .same

/-- Reordering repeats no key. -/
theorem Reordered.hasDistinctKeys (h : Reordered part v v') (hd : v.HasDistinctKeys) :
    v'.HasDistinctKeys := by
  induction h with
  | same => exact hd
  | @array _ vs vs' length _ ih =>
    refine .array fun v' hv' => ?_
    obtain ⟨i, hi⟩ := List.mem_iff_getElem?.1 hv'
    have hlt : i < vs.length := length ▸ (List.getElem?_eq_some_iff.1 hi).1
    exact ih i vs[i] v' (List.getElem?_eq_getElem hlt) hi (hd.element (List.getElem_mem hlt))
  | @object _ ms ms' walked keys _ ih =>
    have hnodup : ms'.keys.Nodup := keys.nodup_iff.1 hd.keys
    refine .object hnodup fun m hm => ?_
    have hget' : ms'.get? m.1 = some m.2 := (Members.get?_eq_some_iff hnodup).2 hm
    obtain ⟨v, hv⟩ := Members.mem_keys_iff.1 (keys.mem_iff.2 (Members.mem_keys_iff.2 ⟨_, hget'⟩))
    exact ih m.1 v m.2 hv hget' (hd.get? hv)

/-- What is not walked stays as it is. -/
theorem Reordered.eq_of_verbatim (h : Reordered .verbatim v v') : v = v' := by
  generalize hpart : Part.verbatim = part at h
  induction h with
  | same => rfl
  | @array _ vs vs' length _ ih =>
    subst hpart
    refine congrArg Json.array (List.ext_getElem length fun i hi hi' => ?_)
    exact ih i vs[i] vs'[i] (List.getElem?_eq_getElem hi) (List.getElem?_eq_getElem hi') rfl
  | object walked => exact absurd hpart.symm walked

/-- A flag is a flag in any order. -/
theorem Reordered.asBool?_eq (h : Reordered part v v') : v'.asBool? = v.asBool? := by
  cases h <;> rfl

/-- **Documents without repeated keys** that are reordered are shuffled. -/
theorem Reordered.shuffled (h : Reordered part v v') (hd : v.HasDistinctKeys) :
    Shuffled part v v' :=
  ⟨hd, h.hasDistinctKeys hd, h⟩

theorem Shuffled.symm (h : Shuffled part v v') : Shuffled part v' v :=
  ⟨h.distinct', h.distinct, h.reordered.symm⟩

theorem Shuffled.refl (hd : v.HasDistinctKeys) : Shuffled part v v := ⟨hd, hd, .same⟩

/-- What an object is shuffled into is an object, of members that are shuffled. -/
theorem Shuffled.exists_object (h : Shuffled part (.object ms) v') :
    ∃ ms' : Members, v' = .object ms' ∧ ms.Shuffled part ms' := by
  obtain ⟨hd, hd', h⟩ := h
  cases h with
  | same =>
    refine ⟨ms, rfl, hd.keys, .refl _, fun key v v' hv hv' => ?_⟩
    obtain rfl := Option.some.inj (hv.symm.trans hv')
    exact .refl (hd.get? hv)
  | object _ keys values =>
    refine ⟨_, rfl, hd.keys, keys, fun key v v' hv hv' => ?_⟩
    exact ⟨hd.get? hv, hd'.get? hv', values key v v' hv hv'⟩

/-- What an array is shuffled into is an array, with the elements in their places. -/
theorem Shuffled.exists_array (h : Shuffled part (.array vs) v') :
    ∃ vs', v' = .array vs' ∧ List.Forall₂ (Shuffled part.element) vs vs' := by
  obtain ⟨hd, hd', h⟩ := h
  cases h with
  | same => exact ⟨vs, rfl, List.forall₂_same.2 fun v hv => .refl (hd.element hv)⟩
  | @array _ _ vs' length elements =>
    refine ⟨vs', rfl, List.forall₂_iff_get.2 ⟨length, fun i hi hi' => ?_⟩⟩
    exact ⟨hd.element (List.getElem_mem hi), hd'.element (List.getElem_mem hi'),
      elements i _ _ (List.getElem?_eq_getElem hi) (List.getElem?_eq_getElem hi')⟩

end Json

/-! ## Members in another order -/

/-- A relation of elements through those of a list between. -/
theorem forall₂_of_forall₂ {α β γ : Type} {A : α → β → Prop} {B : β → γ → Prop} {R : α → γ → Prop}
    (h : ∀ a b c, A a b → B b c → R a c) {as : List α} {bs : List β} {cs : List γ}
    (hA : List.Forall₂ A as bs) (hB : List.Forall₂ B bs cs) : List.Forall₂ R as cs := by
  induction hA generalizing cs with
  | nil =>
    cases hB
    exact .nil
  | cons ha _ ih =>
    cases hB with
    | cons hb hbs => exact .cons (h _ _ _ ha hb) (ih hbs)

namespace Members.Shuffled

variable {α β : Type} {part : Part} {ms ms' : Members} {key : String} {v : Json}

/-- Under each key the value is shuffled. -/
theorem get? (h : ms.Shuffled part ms') (hv : ms.get? key = some v) :
    ∃ v', ms'.get? key = some v' ∧ Json.Shuffled (part.member key) v v' := by
  have hkey : key ∈ ms.keys := mem_keys_iff.2 ⟨v, hv⟩
  obtain ⟨v', hv'⟩ := mem_keys_iff.1 (h.keys.mem_iff.1 hkey)
  exact ⟨v', hv', h.values key v v' hv hv'⟩

theorem get?_eq_none (h : ms.Shuffled part ms') (hv : ms.get? key = none) :
    ms'.get? key = none := by
  rw [Members.get?_eq_none_iff] at hv ⊢
  exact fun hkey => hv (h.keys.mem_iff.2 hkey)

/-- What is not walked is under the same key. -/
theorem get?_eq (h : ms.Shuffled part ms') (hp : part.member key = .verbatim) :
    ms'.get? key = ms.get? key := by
  cases hv : ms.get? key with
  | none => exact h.get?_eq_none hv
  | some v =>
    obtain ⟨v', hv', hshuffled⟩ := h.get? hv
    have hsame : Json.Reordered .verbatim v v' := hp ▸ hshuffled.reordered
    rw [hv', hsame.eq_of_verbatim]

theorem keysAre (h : ms.Shuffled part ms') {required optional : List String}
    (hk : ms.KeysAre required optional) : ms'.KeysAre required optional :=
  hk.congr fun _ => h.keys.mem_iff

/-- The members of the one object in the order of the other, under the same keys. -/
theorem exists_perm (h : ms.Shuffled part ms') :
    ∃ ns : Members,
      List.Forall₂ (fun m' n => m'.1 = n.1 ∧ Json.Shuffled (part.member n.1) n.2 m'.2) ms' ns ∧
        ns.Perm ms := by
  have hself : List.Forall₂ (fun key m => key = m.1) ms.keys ms :=
    List.forall₂_map_left_iff.2 (List.forall₂_same.2 fun _ _ => rfl)
  obtain ⟨ns, hns, hperm⟩ := List.perm_comp_forall₂ h.keys.symm hself
  obtain ⟨hlength, hkeys⟩ := List.forall₂_iff_zip.1 (List.forall₂_map_left_iff.1 hns)
  refine ⟨ns, List.forall₂_iff_zip.2 ⟨hlength, fun {m' n} hzip => ?_⟩, hperm⟩
  have hkey : m'.1 = n.1 := hkeys hzip
  obtain ⟨hm', hn⟩ := List.of_mem_zip hzip
  have hget : ms.get? n.1 = some n.2 := (get?_eq_some_iff h.distinct).2 (hperm.mem_iff.1 hn)
  have hget' : ms'.get? n.1 = some m'.2 :=
    (get?_eq_some_iff (h.keys.nodup_iff.1 h.distinct)).2 (hkey ▸ hm')
  exact ⟨hkey, h.values n.1 n.2 m'.2 hget hget'⟩

/-- **What members declare one by one**, those in another order declare in another order. -/
theorem exists_forall₂ (h : ms.Shuffled part ms') {Q Q' : String → Json → β → Prop} {bs : List β}
    (hQ : ∀ key v v' b, Json.Shuffled (part.member key) v v' → Q key v b → Q' key v' b)
    (hbs : List.Forall₂ (fun m b => Q m.1 m.2 b) ms bs) :
    ∃ bs', List.Forall₂ (fun m b => Q' m.1 m.2 b) ms' bs' ∧ bs'.Perm bs := by
  obtain ⟨ns, hns, hperm⟩ := h.exists_perm
  obtain ⟨bs', hbs', hperm'⟩ := List.perm_comp_forall₂ hperm hbs
  refine ⟨bs', forall₂_of_forall₂ ?_ hns hbs', hperm'⟩
  rintro ⟨_, v'⟩ ⟨key, v⟩ b ⟨rfl, hv⟩ hb
  exact hQ _ v v' b hv hb

/-- **A map has no order of its own**: members under different names are in the order of their
keys. -/
theorem exists_ofList {κ : Type} [Ord κ] [Std.TransOrd κ] [Std.LawfulEqOrd κ]
    (h : ms.Shuffled part ms') (name : κ → String) {R R' : κ → Json → α → Prop}
    {entries : List (κ × α)}
    (hR : ∀ k v v' a, Json.Shuffled (part.member (name k)) v v' → R k v a → R' k v' a)
    (he : List.Forall₂ (fun m e => m.1 = name e.1 ∧ R e.1 m.2 e.2) ms entries) :
    ∃ entries', List.Forall₂ (fun m e => m.1 = name e.1 ∧ R' e.1 m.2 e.2) ms' entries' ∧
      Keyed.ofList entries' = Keyed.ofList entries := by
  have hentry : ∀ key v v' (e : κ × α), Json.Shuffled (part.member key) v v' →
      key = name e.1 ∧ R e.1 v e.2 → key = name e.1 ∧ R' e.1 v' e.2 :=
    fun key v v' e hv ⟨hname, hm⟩ => ⟨hname, hR e.1 v v' e.2 (hname ▸ hv) hm⟩
  obtain ⟨entries', he', hperm⟩ := h.exists_forall₂ hentry he
  have hnodup := nodup_of_forall₂ h.distinct (he.imp fun _ _ hm => hm.1)
  exact ⟨entries', he', (Keyed.ofList_eq_of_perm hnodup hperm.symm).symm⟩

end Members.Shuffled

/-! ## What does not depend on the order of members -/

/-- What the values of a part declare does not depend on the order of members. -/
def Json.Invariant {α : Type} (part : Part) (R : Json → α → Prop) : Prop :=
  ∀ v v' a, Json.Shuffled part v v' → R v a → R v' a

/-- What the members of a part declare does not depend on their order. -/
def Members.Invariant {α : Type} (part : Part) (D : Members → α → Prop) : Prop :=
  ∀ ms ms' a, ms.Shuffled part ms' → D ms a → D ms' a

end ApiContract
