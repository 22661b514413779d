import ApiContract.Proofs.Json.Amendment
import ApiContract.Proofs.Schema.Canonical

/-!
# Proofs/Schema/Amendment — schema nodes amended after a refusal

`Schema.Amended` relates schema nodes that differ in what comes after a refused property or branch,
at any depth.  The walk stops there, so they are refused alike: **`Schema.Amended.refusedAlike`**.
Later properties keep their names, since the node looks at those before it looks at any property.
-/

namespace ApiContract

variable {components : Components} {p : Location} {ms ms' : Members} {v v' : Json}

/-! ## The form of an amended node -/

section Form

theorem Members.Replaces.keysAre {key : String} (hr : ms.Replaces key v v' ms')
    {required optional : List String} (h : ms.KeysAre required optional) :
    ms'.KeysAre required optional :=
  h.congr fun _ => by rw [hr.keys]

variable {nullable : Option Json}

/-- Other properties of the same names make a node of the same form. -/
theorem Node.DeclaredBy.replace_properties {declared declared' : Members}
    {required : List String} {beside : Additional Json}
    (h : (Node.typed (.object declared required beside) nullable).DeclaredBy ms)
    (hr : ms.Replaces "properties" (.object declared) (.object declared') ms')
    (hkeys : declared'.keys = declared.keys) :
    (Node.typed (.object declared' required beside) nullable).DeclaredBy ms' := by
  cases h with
  | typed ht hn =>
    cases hn with
    | object keys hp hrequired ha =>
      rw [← hr.others "nullable" (by decide)]
      refine .typed ((hr.others "type" (by decide)).trans ht)
        (.object (hr.keysAre keys) hr.new ?_ ?_)
      · rw [hr.others "required" (by decide)]
        exact hrequired.mono fun _ => hkeys ▸ id
      · rw [hr.others "additionalProperties" (by decide)]
        exact ha

/-- Another schema for what is not declared makes a node of the same form. -/
theorem Node.DeclaredBy.replace_additional {declared : Members} {required : List String}
    (h : (Node.typed (.object declared required (.schema v)) nullable).DeclaredBy ms)
    (hr : ms.Replaces "additionalProperties" v v' ms') (hv : v'.asBool? = none) :
    (Node.typed (.object declared required (.schema v')) nullable).DeclaredBy ms' := by
  cases h with
  | typed ht hn =>
    cases hn with
    | object keys hp hrequired ha =>
      rw [← hr.others "nullable" (by decide)]
      refine .typed ((hr.others "type" (by decide)).trans ht)
        (.object (hr.keysAre keys) ((hr.others "properties" (by decide)).trans hp) ?_ ?_)
      · rw [hr.others "required" (by decide)]
        exact hrequired
      · rw [hr.new]
        exact .schema hv

/-- Other elements make a node of the same form. -/
theorem Node.DeclaredBy.replace_items (h : (Node.typed (.array v) nullable).DeclaredBy ms)
    (hr : ms.Replaces "items" v v' ms') : (Node.typed (.array v') nullable).DeclaredBy ms' := by
  cases h with
  | typed ht hn =>
    cases hn with
    | array keys hi =>
      rw [← hr.others "nullable" (by decide)]
      exact .typed ((hr.others "type" (by decide)).trans ht) (.array (hr.keysAre keys) hr.new)

/-- Other branches make a node of the same form. -/
theorem Node.DeclaredBy.replace_branches {branches branches' : List Json}
    (h : (Node.union branches).DeclaredBy ms)
    (hr : ms.Replaces "oneOf" (.array branches) (.array branches') ms') :
    (Node.union branches').DeclaredBy ms' := by
  cases h with
  | union keys hb => exact .union (hr.keysAre keys) hr.new

end Form

namespace Schema

/-! ## Amended nodes -/

/-- **A schema node amended after a refusal**: what follows a refused property or branch is
replaced, in the node itself or in one below it.  The later properties keep their names. -/
inductive Amended (components : Components) : Location → Json → Json → Prop
  | laterProperties {p : Location} {ms ms' before after after' : Members} {name : String} {v : Json}
    {required : List String} {beside : Additional Json} {nullable : Option Json}
    (hn : (Node.typed (.object (before ++ (name, v) :: after) required beside)
      nullable).DeclaredBy ms)
    (hr : ms.Replaces "properties" (.object (before ++ (name, v) :: after))
      (.object (before ++ (name, v) :: after')) ms')
    (hkeys : after'.keys = after.keys) (h : ∃ d, ofJson components (p.member name) v = .error d) :
    Amended components p (.object ms) (.object ms')
  | laterBranches {p : Location} {ms ms' : Members} {before after after' : List Json} {v : Json}
    (hn : (Node.union (before ++ v :: after)).DeclaredBy ms)
    (hr : ms.Replaces "oneOf" (.array (before ++ v :: after)) (.array (before ++ v :: after')) ms')
    (h : ∃ d, ofJson components ((p.member "oneOf").element before.length) v = .error d) :
    Amended components p (.object ms) (.object ms')
  | property {p : Location} {ms ms' before after : Members} {name : String} {v v' : Json}
    {required : List String} {beside : Additional Json} {nullable : Option Json}
    (hn : (Node.typed (.object (before ++ (name, v) :: after) required beside)
      nullable).DeclaredBy ms)
    (hr : ms.Replaces "properties" (.object (before ++ (name, v) :: after))
      (.object (before ++ (name, v') :: after)) ms')
    (h : Amended components (p.member name) v v') :
    Amended components p (.object ms) (.object ms')
  | branch {p : Location} {ms ms' : Members} {before after : List Json} {v v' : Json}
    (hn : (Node.union (before ++ v :: after)).DeclaredBy ms)
    (hr : ms.Replaces "oneOf" (.array (before ++ v :: after)) (.array (before ++ v' :: after)) ms')
    (h : Amended components ((p.member "oneOf").element before.length) v v') :
    Amended components p (.object ms) (.object ms')
  | items {p : Location} {ms ms' : Members} {v v' : Json} {nullable : Option Json}
    (hn : (Node.typed (.array v) nullable).DeclaredBy ms) (hr : ms.Replaces "items" v v' ms')
    (h : Amended components (p.member "items") v v') :
    Amended components p (.object ms) (.object ms')
  | additional {p : Location} {ms ms' declared : Members} {v v' : Json}
    {required : List String} {nullable : Option Json}
    (hn : (Node.typed (.object declared required (.schema v)) nullable).DeclaredBy ms)
    (hr : ms.Replaces "additionalProperties" v v' ms')
    (h : Amended components (p.member "additionalProperties") v v') :
    Amended components p (.object ms) (.object ms')

/-- An amended node is an object, as it was. -/
theorem Amended.asBool?_eq (h : Amended components p v v') : v'.asBool? = none := by
  cases h <;> rfl

/-! ## Reading them -/

open Checked (RefusedAlike)

/-- What comes after a refused property does not matter. -/
theorem refusedAlike_ofProperties {before after after' : Members} {name : String}
    (h : RefusedAlike (ofJson components (p.member name) v)
      (ofJson components (p.member name) v')) :
    RefusedAlike (ofProperties components p (before ++ (name, v) :: after))
      (ofProperties components p (before ++ (name, v') :: after')) := by
  induction before with
  | nil =>
    simp only [List.nil_append, ofProperties]
    exact h.bind
  | cons m before ih =>
    obtain ⟨key, u⟩ := m
    simp only [List.cons_append, ofProperties]
    exact .after fun _ => ih.bind

/-- What comes after a refused branch does not matter. -/
theorem refusedAlike_ofBranches {before after after' : List Json} {i : Nat}
    (h : RefusedAlike (ofJson components ((p.member "oneOf").element (i + before.length)) v)
      (ofJson components ((p.member "oneOf").element (i + before.length)) v')) :
    RefusedAlike (ofBranches components p i (before ++ v :: after))
      (ofBranches components p i (before ++ v' :: after')) := by
  induction before generalizing i with
  | nil =>
    simp only [List.nil_append, ofBranches]
    exact h.bind
  | cons u before ih =>
    simp only [List.cons_append, ofBranches]
    refine .after fun _ => (ih ?_).bind
    rw [Nat.add_assoc, Nat.add_comm 1]
    exact h

/-- Nodes that are objects, by their properties. -/
theorem refusedAlike_of_properties {before after after' : Members} {name : String}
    {required : List String} {beside : Additional Json} {nullable : Option Json}
    (hn : (Node.typed (.object (before ++ (name, v) :: after) required beside)
      nullable).DeclaredBy ms)
    (hr : ms.Replaces "properties" (.object (before ++ (name, v) :: after))
      (.object (before ++ (name, v') :: after')) ms')
    (hkeys : after'.keys = after.keys)
    (h : RefusedAlike (ofJson components (p.member name) v)
      (ofJson components (p.member name) v')) :
    RefusedAlike (ofJson components p (.object ms)) (ofJson components p (.object ms')) := by
  have hdeclared : Members.keys (before ++ (name, v') :: after') =
      Members.keys (before ++ (name, v) :: after) := by
    unfold Members.keys at hkeys ⊢
    rw [List.map_append, List.map_append, List.map_cons, List.map_cons, hkeys]
  rw [ofJson_of_object (Node.ofMembers_eq_ok_iff.2 hn),
    ofJson_of_object (Node.ofMembers_eq_ok_iff.2 (hn.replace_properties hr hdeclared))]
  exact .after fun _ => (refusedAlike_ofProperties h).bind

/-- Unions, by their branches. -/
theorem refusedAlike_of_branches {before after after' : List Json}
    (hn : (Node.union (before ++ v :: after)).DeclaredBy ms)
    (hr : ms.Replaces "oneOf" (.array (before ++ v :: after)) (.array (before ++ v' :: after')) ms')
    (h : RefusedAlike (ofJson components ((p.member "oneOf").element before.length) v)
      (ofJson components ((p.member "oneOf").element before.length) v')) :
    RefusedAlike (ofJson components p (.object ms)) (ofJson components p (.object ms')) := by
  rw [ofJson_of_union (Node.ofMembers_eq_ok_iff.2 hn),
    ofJson_of_union (Node.ofMembers_eq_ok_iff.2 (hn.replace_branches hr))]
  refine (refusedAlike_ofBranches ?_).map
  rw [Nat.zero_add]
  exact h

/-- **Amended nodes are refused alike.** -/
theorem Amended.refusedAlike (h : Amended components p v v') :
    RefusedAlike (ofJson components p v) (ofJson components p v') := by
  induction h with
  | laterProperties hn hr hkeys h => exact refusedAlike_of_properties hn hr hkeys (.refl h)
  | laterBranches hn hr h => exact refusedAlike_of_branches hn hr (.refl h)
  | property hn hr _ ih => exact refusedAlike_of_properties hn hr rfl ih
  | branch hn hr _ ih => exact refusedAlike_of_branches hn hr ih
  | items hn hr _ ih =>
    rw [ofJson_of_array (Node.ofMembers_eq_ok_iff.2 hn),
      ofJson_of_array (Node.ofMembers_eq_ok_iff.2 (hn.replace_items hr))]
    exact ih.bind
  | additional hn hr h ih =>
    rw [ofJson_of_object (Node.ofMembers_eq_ok_iff.2 hn),
      ofJson_of_object (Node.ofMembers_eq_ok_iff.2 (hn.replace_additional hr h.asBool?_eq))]
    exact (ih.map).bind

end Schema

end ApiContract
