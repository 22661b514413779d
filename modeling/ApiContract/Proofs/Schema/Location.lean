import ApiContract.Proofs.Schema.Canonical

/-!
# Proofs/Schema/Location — where the defects of a schema node stand

A check is local when it has one outcome wherever it is made, its defect being told from the place
it is made at (`Checked.IsLocal`).  Every check of a node is, and so is the reading of the schemas
below it, each told from the place of its own node.  **`ofJson_located`**: a defect of a node is one
that some node at some depth of it has by itself, told at the place of that node.
-/

namespace ApiContract

/-! ## Local checks -/

section Local

variable {α β : Type} {E E' : String → Defect.Cause → Prop}

/-- **A local check** passes wherever it is made, with one result, or is refused wherever it is
made, for one cause and at one place beside the one it is made at; `E` says which. -/
def Checked.IsLocal (E : String → Defect.Cause → Prop) (f : Location → Checked α) : Prop :=
  (∃ a, ∀ p, f p = .ok a) ∨ ∃ s cause, E s cause ∧ ∀ p, f p = .error ⟨p ++ s, cause⟩

/-- A defect at the very place a check is made at. -/
def Checked.AtPlace (s : String) (_ : Defect.Cause) : Prop := s = ""

namespace Checked.IsLocal

variable {f : Location → Checked α} {g : α → Location → Checked β}

/-- A result does not depend on the place. -/
theorem ok (a : α) : IsLocal E fun _ => (.ok a : Checked α) := .inl ⟨a, fun _ => rfl⟩

/-- A refusal told beside the place of the check. -/
theorem refuse {s : String} {cause : Defect.Cause} (h : E s cause) :
    IsLocal E fun p => (ApiContract.refuse (p ++ s) cause : Checked α) :=
  .inr ⟨s, cause, h, fun _ => rfl⟩

/-- A refusal told at the place of the check. -/
theorem refuse_here {cause : Defect.Cause} (h : E "" cause) :
    IsLocal E fun p => (ApiContract.refuse p cause : Checked α) :=
  .inr ⟨"", cause, h, fun p => by simp only [String.append_empty, ApiContract.refuse]⟩

/-- What is told may be described less closely. -/
theorem mono (h : IsLocal E f) (hE : ∀ s cause, E s cause → E' s cause) : IsLocal E' f :=
  h.imp_right fun ⟨s, cause, hs, hf⟩ => ⟨s, cause, hE s cause hs, hf⟩

/-- One local check after another is local. -/
theorem bind (h : IsLocal E f) (hg : ∀ a, IsLocal E (g a)) :
    IsLocal E fun p => f p >>= fun a => g a p := by
  rcases h with ⟨a, hf⟩ | ⟨s, cause, hs, hf⟩
  · simp only [hf]
    exact hg a
  · refine .inr ⟨s, cause, hs, fun p => ?_⟩
    simp only [hf]
    rfl

/-- The result of a local check may be changed. -/
theorem map {k : α → β} (h : IsLocal E f) : IsLocal E fun p => (f p).map k := by
  rcases h with ⟨a, hf⟩ | ⟨s, cause, hs, hf⟩
  · exact .inl ⟨k a, fun p => congrArg (Except.map k) (hf p)⟩
  · exact .inr ⟨s, cause, hs, fun p => congrArg (Except.map k) (hf p)⟩

/-- A local check made at a place beside the present one. -/
theorem beside {t : String} (h : IsLocal E f) (hE : ∀ s cause, E s cause → E' (t ++ s) cause) :
    IsLocal E' fun p => f (p ++ t) := by
  rcases h with ⟨a, hf⟩ | ⟨s, cause, hs, hf⟩
  · exact .inl ⟨a, fun p => hf _⟩
  · exact .inr ⟨t ++ s, cause, hE s cause hs, fun p => by simp only [hf, String.append_assoc]⟩

/-- A check that tells its defects at the very place, made here. -/
theorem here (h : IsLocal AtPlace f) (hE : ∀ cause, E "" cause) : IsLocal E f :=
  h.mono fun _ cause hs => hs ▸ hE cause

/-- A check that tells its defects at the very place, made at a place beside the present one. -/
theorem told {t : String} (h : IsLocal AtPlace f) (hE : ∀ cause, E t cause) :
    IsLocal E fun p => f (p ++ t) :=
  h.beside fun s cause hs => by
    rw [hs, String.append_empty]
    exact hE cause

end Checked.IsLocal

end Local

/-! ## Nodes at every depth, and the texts of the way there -/

/-- **A schema position right below a node**, and the text that leads there. -/
inductive Json.SchemaStep : Json → String → Json → Prop
  | property {ms declared : Members} {name : String} {v : Json}
    (hp : ms.get? "properties" = some (.object declared)) (hm : (name, v) ∈ declared) :
    SchemaStep (.object ms) (":" ++ name) v
  | items {ms : Members} {v : Json} (hi : ms.get? "items" = some v) :
    SchemaStep (.object ms) ":items" v
  | branch {ms : Members} {branches : List Json} {i : Nat} {v : Json}
    (hb : ms.get? "oneOf" = some (.array branches)) (hi : branches[i]? = some v) :
    SchemaStep (.object ms) (":oneOf[" ++ toString i ++ "]") v
  | additional {ms : Members} {v : Json} (ha : ms.get? "additionalProperties" = some v)
    (hv : v.asBool? = none) : SchemaStep (.object ms) ":additionalProperties" v

/-- **A node at some depth of another**, and the texts that lead there, one after the other. -/
inductive Json.SchemaPath : Json → String → Json → Prop
  | refl {v : Json} : SchemaPath v "" v
  | step {v u w : Json} {t s : String} (h : SchemaStep v t u) (hs : SchemaPath u s w) :
    SchemaPath v (t ++ s) w

/-- What follows the place of a node where it is refused by itself: nothing, or what is looked at in
it. -/
def Node.placeEnds : List String :=
  ["", "[no type]", ":$ref", ":oneOf", ":properties", ":required", ":enum", ":pattern",
    ":minLength", ":nullable"]

/-- The same, or the type of the node. -/
def Json.HasPlaceEnd (v : Json) (s : String) : Prop :=
  s ∈ Node.placeEnds ∨ ∃ (ms : Members) (type : String),
    v = .object ms ∧ ms.get? "type" = some (.string type) ∧ s = "[" ++ type ++ "]"

/-- The place of a branch is told as one text. -/
theorem Location.branch_eq (p : Location) (i : Nat) :
    (p.member "oneOf").element i = p ++ (":oneOf[" ++ toString i ++ "]") := by
  have htext : ":oneOf[" = ":" ++ "oneOf" ++ "[" := rfl
  rw [member, element, htext]
  simp only [String.append_assoc]

/-! ## The checks of a node -/

namespace Node

open Checked (IsLocal AtPlace)

variable {α : Type} {ms declared : Members} {E : String → Defect.Cause → Prop}

/-- The keys are told at the place of their object. -/
theorem isLocal_checkKeys {required optional : List String} :
    IsLocal AtPlace fun p => ms.checkKeys p required optional := by
  unfold Members.checkKeys
  dsimp only
  split_ifs
  · exact .refuse_here rfl
  · exact .refuse_here rfl
  · exact .ok ()

/-- An absent member is told at the place of its object. -/
theorem isLocal_fetch {key : String} : IsLocal AtPlace fun p => ms.fetch p key := by
  unfold Members.fetch
  cases ms.get? key with
  | none => exact .refuse_here rfl
  | some v => exact .ok v

theorem isLocal_expectObject {v : Json} : IsLocal AtPlace fun p => v.expectObject p := by
  cases v with
  | object ms => exact .ok ms
  | _ => exact .refuse_here rfl

theorem isLocal_expectArray {v : Json} : IsLocal AtPlace fun p => v.expectArray p := by
  cases v with
  | array items => exact .ok items
  | _ => exact .refuse_here rfl

/-- A list of values that is none of the type is told at `enum`. -/
theorem isLocal_enumeration {kind : EnumKind} {member : Json → Option α}
    (h : ∀ cause, E ":enum" cause) : IsLocal E fun p => enumeration p ms kind member := by
  unfold enumeration
  cases ms.get? "enum" with
  | none => exact .ok none
  | some v =>
    dsimp only
    cases v.asArray?.bind (·.mapM member) with
    | none => exact .refuse (h _)
    | some members => exact .ok (some members)

/-- A pattern that is no text is told at `pattern`. -/
theorem isLocal_pattern (h : ∀ cause, E ":pattern" cause) : IsLocal E fun p => pattern p ms := by
  unfold pattern
  cases ms.get? "pattern" with
  | none => exact .ok none
  | some v =>
    cases v with
    | string s => exact .ok (some s)
    | _ => exact .refuse (h _)

/-- A length that is none is told at `minLength`. -/
theorem isLocal_minLength (h : ∀ cause, E ":minLength" cause) :
    IsLocal E fun p => minLength p ms := by
  unfold minLength
  cases ms.get? "minLength" with
  | none => exact .ok none
  | some v =>
    dsimp only
    cases v.asUnsigned? with
    | none => exact .refuse (h _)
    | some n => exact .ok (some n)

/-- Required names that are no list are told at `required`, and those of no property at the object.
-/
theorem isLocal_requiredNames (h : ∀ cause, E "" cause) (hr : ∀ cause, E ":required" cause) :
    IsLocal E fun p => requiredNames p ms declared := by
  unfold requiredNames
  cases ms.get? "required" with
  | none => exact .ok []
  | some v =>
    have hitems : IsLocal E fun p => v.expectArray (p ++ ":required") := isLocal_expectArray.told hr
    refine hitems.bind fun items => ?_
    dsimp only
    split_ifs
    · exact .refuse_here (h _)
    · exact .ok _

/-- A defect that a node has by itself is told at its place, or at what is looked at in it. -/
def Own (ms : Members) (s : String) (_ : Defect.Cause) : Prop := (Json.object ms).HasPlaceEnd s

/-- The ends that every node may have are those of its own defects. -/
theorem own_of_mem {s : String} (h : s ∈ placeEnds) (cause : Defect.Cause) : Own ms s cause :=
  .inl h

theorem own_here (cause : Defect.Cause) : Own ms "" cause := own_of_mem (by decide) cause

/-- An object is told at its place, its properties or its required names. -/
theorem isLocal_objectNode : IsLocal (Own ms) fun p => objectNode p ms := by
  unfold objectNode
  refine (isLocal_fetch.here own_here).bind fun v => ?_
  have hproperties : IsLocal (Own ms) fun p => v.expectObject (p ++ ":properties") :=
    isLocal_expectObject.told (own_of_mem (by decide))
  refine hproperties.bind fun declared => ?_
  exact (isLocal_requiredNames own_here (own_of_mem (by decide))).bind fun required => .ok _

/-- A string is told at its listed values, its pattern or its length. -/
theorem isLocal_stringNode : IsLocal (Own ms) fun p => stringNode p ms := by
  unfold stringNode
  refine (isLocal_enumeration (own_of_mem (by decide))).bind fun members => ?_
  refine (isLocal_pattern (own_of_mem (by decide))).bind fun pattern => ?_
  exact (isLocal_minLength (own_of_mem (by decide))).bind fun minLength => .ok _

/-- The other primitive nodes are told at their listed values. -/
theorem isLocal_choiceNode {kind : EnumKind} {member : Json → Option α} {make : Choice α → Schema} :
    IsLocal (Own ms) fun p => choiceNode p ms kind member make := by
  unfold choiceNode
  exact (isLocal_enumeration (own_of_mem (by decide))).bind fun members => .ok _

/-- The keys of a typed node are told under the name of its type. -/
theorem isLocal_typedNode {type : Json} (ht : ms.get? "type" = some type) :
    IsLocal (Own ms) fun p => typedNode p ms type := by
  -- the keys are told as those of the type, which is then a string
  have hkeys {name : String} (hname : type.asString? = some name)
      (required optional : List String) :
      IsLocal (Own ms) fun p => ms.checkKeys (p.reading type.bare) required optional := by
    obtain rfl := Json.asString?_eq_some_iff.1 hname
    exact isLocal_checkKeys.told fun _ => .inr ⟨ms, name, rfl, ht, rfl⟩
  unfold typedNode
  split
  next h => exact (hkeys h _ _).bind fun _ => isLocal_objectNode
  next h => exact (hkeys h _ _).bind fun _ => (isLocal_fetch.here own_here).bind fun items => .ok _
  next h => exact (hkeys h _ _).bind fun _ => isLocal_stringNode
  next h => exact (hkeys h _ _).bind fun _ => isLocal_choiceNode
  next h => exact (hkeys h _ _).bind fun _ => isLocal_choiceNode
  next h => exact (hkeys h _ _).bind fun _ => isLocal_choiceNode
  next => exact .refuse_here (own_here _)

/-- **The checks of a node are local**, and told at its place or at what is looked at in it. -/
theorem isLocal_ofMembers : IsLocal (Own ms) fun p => ofMembers p ms := by
  have hnoType (required optional : List String) :
      IsLocal (Own ms) fun p => ms.checkKeys (p ++ "[no type]") required optional :=
    isLocal_checkKeys.told (own_of_mem (by decide))
  unfold ofMembers
  refine (isLocal_checkKeys.here own_here).bind fun _ => ?_
  cases ht : ms.get? "type" with
  | some type => exact (isLocal_typedNode ht).bind fun node => .ok _
  | none =>
    dsimp only
    split_ifs
    · exact (hnoType _ _).bind fun _ => (isLocal_fetch.here own_here).bind fun target => .ok _
    · refine (hnoType _ _).bind fun _ => (isLocal_fetch.here own_here).bind fun v => ?_
      have hbranches : IsLocal (Own ms) fun p => v.expectArray (p ++ ":oneOf") :=
        isLocal_expectArray.told (own_of_mem (by decide))
      exact hbranches.bind fun branches => .ok _
    · exact .refuse_here (own_here _)

/-- A reference that names no component is told at `$ref`. -/
theorem isLocal_resolve {components : Components} {target : Json} :
    IsLocal (Own ms) fun p => resolve components p target := by
  unfold resolve
  split
  next => exact .refuse (own_of_mem (by decide) _)
  next name _ =>
    cases Keyed.get? name components with
    | none => exact .refuse (own_of_mem (by decide) _)
    | some s => exact .ok s

/-- A flag that is none is told at `nullable`. -/
theorem isLocal_finish {nullable : Option Json} {s : Schema} :
    IsLocal (Own ms) fun p => Schema.finish p nullable s := by
  have hflag : IsLocal (Own ms) fun p => isNullable p nullable := by
    unfold isNullable
    split
    · exact .ok false
    · exact .ok false
    · exact .ok _
    · exact .refuse (own_of_mem (by decide) _)
  exact hflag.map

end Node

/-! ## The schemas below a node -/

namespace Schema

open Checked (IsLocal)

variable {components : Components} {v u : Json} {t s : String} {cause : Defect.Cause}
  {E : String → Defect.Cause → Prop}

/-- The branches of a union are read locally when each is, at its number. -/
theorem isLocal_ofBranches {vs : List Json} {i : Nat}
    (h : ∀ j v, vs[j]? = some v →
      IsLocal E fun p => ofJson components ((p.member "oneOf").element (i + j)) v) :
    IsLocal E fun p => ofBranches components p i vs := by
  induction vs generalizing i with
  | nil =>
    simp only [ofBranches]
    exact .ok []
  | cons v vs ih =>
    simp only [ofBranches]
    refine (h 0 v rfl).bind fun s => ?_
    have hrest : IsLocal E fun p => ofBranches components p (i + 1) vs := ih fun j u hu => by
      rw [Nat.add_assoc, Nat.add_comm 1 j]
      exact h (j + 1) u hu
    exact hrest.bind fun ss => .ok (s :: ss)

/-- The properties of an object are read locally when each is, under its name. -/
theorem isLocal_ofProperties {ms : Members}
    (h : ∀ m ∈ ms, IsLocal E fun p => ofJson components (p.member m.1) m.2) :
    IsLocal E fun p => ofProperties components p ms := by
  induction ms with
  | nil =>
    simp only [ofProperties]
    exact .ok []
  | cons m ms ih =>
    obtain ⟨name, v⟩ := m
    obtain ⟨hv, hms⟩ := List.forall_mem_cons.1 h
    simp only [ofProperties]
    exact hv.bind fun s => (ih hms).bind fun ss => .ok ((name, s) :: ss)

/-- **A defect that some node has by itself**: that node is at some depth of `v`, the defect is told
at its place, and the node is refused for it wherever it is read. -/
def RefusedWithin (components : Components) (v : Json) (s : String) (cause : Defect.Cause) : Prop :=
  ∃ w s₁ s₂, v.SchemaPath s₁ w ∧ w.HasPlaceEnd s₂ ∧ s = s₁ ++ s₂ ∧
    ∀ p, ofJson components p w = .error ⟨p ++ s₂, cause⟩

/-- What is refused within a node below is refused within the node above it. -/
theorem RefusedWithin.step (h : RefusedWithin components u s cause) (hv : v.SchemaStep t u) :
    RefusedWithin components v (t ++ s) cause := by
  obtain ⟨w, s₁, s₂, hpath, hend, rfl, hw⟩ := h
  exact ⟨w, t ++ s₁, s₂, .step hv hpath, hend, String.append_assoc.symm, hw⟩

/-- A defect that a node has by itself is one that some node has. -/
theorem isLocal_of_own
    (h : IsLocal (fun s cause => v.HasPlaceEnd s ∨ RefusedWithin components v s cause)
      fun p => ofJson components p v) :
    IsLocal (RefusedWithin components v) fun p => ofJson components p v := by
  refine h.imp_right fun ⟨s, cause, hs, hv⟩ => ⟨s, cause, ?_, hv⟩
  rcases hs with hend | hs
  · exact ⟨v, "", s, .refl, hend, String.empty_append.symm, hv⟩
  · exact hs

section Node

variable {ms : Members}

/-- What a node is told to have: by itself, or somewhere within it. -/
def Tells (components : Components) (ms : Members) (s : String) (cause : Defect.Cause) : Prop :=
  Node.Own ms s cause ∨ RefusedWithin components (.object ms) s cause

/-- Reading a node, its form being known, and the schemas below it being read locally. -/
theorem isLocal_ofForm {node : Node} (hnode : ∀ p, Node.ofMembers p ms = .ok node)
    (ih : ∀ u, sizeOf u < sizeOf ms →
      IsLocal (RefusedWithin components u) fun p => ofJson components p u) :
    IsLocal (Tells components ms) fun p => ofJson components p (.object ms) := by
  have hsize := Node.ofMembers_below (hnode "")
  -- a refusal of a schema below is told one step further down
  have hbelow {u : Json} {t : String} (hu : sizeOf u < sizeOf ms)
      (hstep : (Json.object ms).SchemaStep t u) :
      IsLocal (Tells components ms) fun p => ofJson components (p ++ t) u :=
    (ih u hu).beside fun _ _ h => .inr (h.step hstep)
  have hfinish (nullable : Option Json) (s : Schema) :
      IsLocal (Tells components ms) fun p => finish p nullable s :=
    Node.isLocal_finish.mono fun _ _ => .inl
  cases Node.ofMembers_eq_ok_iff.1 (hnode "") with
  | reference =>
    simp only [ofJson_of_reference (hnode _)]
    exact Node.isLocal_resolve.mono fun _ _ => .inl
  | @union branches _ hb =>
    simp only [ofJson_of_union (hnode _)]
    refine (isLocal_ofBranches fun i u hu => ?_).map
    have hu' : sizeOf u < sizeOf branches := List.sizeOf_lt_of_mem (List.mem_of_getElem? hu)
    simp only [Location.branch_eq, Nat.zero_add]
    exact hbelow (Nat.lt_trans hu' hsize) (.branch hb hu)
  | typed _ hn =>
    cases hn with
    | @object declared required beside _ hp _ ha =>
      have hproperties : IsLocal (Tells components ms) fun p =>
          ofProperties components p declared := by
        refine isLocal_ofProperties fun ⟨name, v⟩ hm => hbelow ?_ (.property hp hm)
        have hv : sizeOf v < sizeOf declared := by
          have hm' := List.sizeOf_lt_of_mem hm
          rw [Prod.mk.sizeOf_spec] at hm'
          omega
        exact Nat.lt_trans hv hsize.1
      simp only [ofJson_of_object (hnode _)]
      refine IsLocal.bind ?_ fun additional => hproperties.bind fun properties => hfinish _ _
      cases beside with
      | allowed flag => exact .ok _
      | schema v =>
        generalize hget : ms.get? "additionalProperties" = place at ha
        cases ha with
        | schema hv => exact (hbelow (hsize.2 v rfl) (.additional hget hv)).map
    | array _ hi =>
      simp only [ofJson_of_array (hnode _)]
      exact (hbelow hsize (.items hi)).bind fun s => hfinish _ _
    | string =>
      simp only [ofJson_of_primitive (hnode _)]
      exact hfinish _ _
    | integer =>
      simp only [ofJson_of_primitive (hnode _)]
      exact hfinish _ _
    | boolean =>
      simp only [ofJson_of_primitive (hnode _)]
      exact hfinish _ _
    | float =>
      simp only [ofJson_of_primitive (hnode _)]
      exact hfinish _ _

end Node

/-- **The reading of a node is local**, and what it tells is refused within it.  The induction is
over the size of the node, as that of what stands below it. -/
theorem isLocal_ofJson (v : Json) :
    IsLocal (RefusedWithin components v) fun p => ofJson components p v := by
  induction hsize : sizeOf v using Nat.strongRecOn generalizing v with
  | _ n ih =>
    refine isLocal_of_own ?_
    cases v with
    | object ms =>
      rcases @Node.isLocal_ofMembers ms with ⟨node, hnode⟩ | ⟨s, cause, hs, hd⟩
      · refine isLocal_ofForm hnode fun u hu => ih _ ?_ u rfl
        rw [Json.object.sizeOf_spec] at hsize
        omega
      · exact .inr ⟨s, cause, .inl hs, fun p => ofJson_of_error (hd p)⟩
    | _ =>
      simp only [ofJson]
      exact .refuse_here (.inl (.inl (by decide)))

/-- **A defect points at the node that has it.**  Where a node is refused, some node at some depth
of it is refused for the same cause wherever that is read, and the location is that of the outer
node, the way to the inner one and what is looked at there.  So what a node is read as, and what is
wrong with it but for the place it is told from, are the same at every place. -/
theorem ofJson_located (components : Components) (v : Json) :
    (∀ p d, ofJson components p v = .error d → ∃ w s₁ s₂, v.SchemaPath s₁ w ∧ w.HasPlaceEnd s₂ ∧
      d.location = p ++ s₁ ++ s₂ ∧ ∀ q, ofJson components q w = .error ⟨q ++ s₂, d.cause⟩) ∧
    ∀ p q, (∃ c, ofJson components p v = .ok c ∧ ofJson components q v = .ok c) ∨
      ∃ s cause, ofJson components p v = .error ⟨p ++ s, cause⟩ ∧
        ofJson components q v = .error ⟨q ++ s, cause⟩ := by
  rcases @isLocal_ofJson components v with ⟨c, hc⟩ | ⟨s, cause, hs, hv⟩
  · refine ⟨fun p d hd => ?_, fun p q => .inl ⟨c, hc p, hc q⟩⟩
    cases (hc p).symm.trans hd
  · refine ⟨fun p d hd => ?_, fun p q => .inr ⟨s, cause, hv p, hv q⟩⟩
    cases (hv p).symm.trans hd
    obtain ⟨w, s₁, s₂, hpath, hend, rfl, hw⟩ := hs
    exact ⟨w, s₁, s₂, hpath, hend, String.append_assoc.symm, hw⟩

/-! A property whose elements have no length that can be asked for. -/

/-- A string whose least length is a text. -/
def badLength : Json := .object [("type", .string "string"), ("minLength", .string "two")]

/-- An object with a list of such strings. -/
def badTags : Json :=
  .object [("type", .string "object"),
    ("properties",
      .object [("tags", .object [("type", .string "array"), ("items", badLength)])])]

/-- The defect is told at the length of the elements of the property. -/
theorem badTags_located :
    ofJson [] "/s" badTags = .error ⟨"/s:tags:items:minLength", .notLength⟩ ∧
      ∃ w s₁ s₂, badTags.SchemaPath s₁ w ∧ w.HasPlaceEnd s₂ ∧
        "/s:tags:items:minLength" = "/s" ++ s₁ ++ s₂ ∧
        ∀ q, ofJson [] q w = .error ⟨q ++ s₂, .notLength⟩ := by
  have hlength (p : Location) : ofJson [] p badLength = .error ⟨p ++ ":minLength", .notLength⟩ :=
    ofJson_of_error rfl
  have hread : ofJson [] "/s" badTags = .error ⟨"/s:tags:items:minLength", .notLength⟩ := by
    rw [badTags, @ofJson_of_object _ _ _ _ [] (.allowed false) none rfl, ofProperties,
      @ofJson_of_array _ _ _ badLength none rfl, hlength]
    rfl
  exact ⟨hread, (ofJson_located [] badTags).1 _ _ hread⟩

end Schema

end ApiContract
