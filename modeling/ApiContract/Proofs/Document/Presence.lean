import ApiContract.Proofs.Document.Reader

/-!
# Proofs/Document/Presence — every member that is taken is there

The parts of a document take members of objects by name, and a member that is not there is told as
absent.  A check is guarded when it never comes to that (`Checked.Guarded`).  Taking a member is
guarded only where the object has it (`Members.guarded_fetch_iff`), so each part looks at the keys
first, and its check requires every key that is taken without being asked for.
**`Contract.no_absent_member`**: every document is read, or refused for what is wrong with it, and
so is every schema node at any place and against any components.
-/

namespace ApiContract

/-- A defect that tells of a member that was taken and is not there. -/
def Defect.OfAbsence (d : Defect) : Prop := ∃ key, d.cause = .absentMember key

variable {α β : Type} {p : Location} {v : Json} {ms : Members} {components : Components}
  {tags : List String}

/-- **A guarded check** never takes a member that is not there. -/
def Checked.Guarded (x : Checked α) : Prop := ∀ d, x = .error d → ¬ d.OfAbsence

/-! ## Guarded checks, one after the other -/

namespace Checked.Guarded

variable {x : Checked α}

/-- A result is guarded: nothing was refused. -/
theorem ok (a : α) : Guarded (.ok a) := nofun

/-- A refusal is guarded unless it is the one of an absent member. -/
theorem refuse {cause : Defect.Cause} (h : ∀ key, cause ≠ .absentMember key) :
    Guarded (refuse p cause : Checked α) := by
  rintro _ ⟨⟩ ⟨key, hkey⟩
  exact h key hkey

/-- One check after another is guarded when the second is, of each result of the first. -/
theorem bind {f : α → Checked β} (hx : Guarded x) (hf : ∀ a, x = .ok a → Guarded (f a)) :
    Guarded (x >>= f) := by
  intro d hd
  rcases bind_eq_error_iff.1 hd with hd | ⟨a, ha, hd⟩
  · exact hx d hd
  · exact hf a ha d hd

/-- A result may be changed under the guard. -/
theorem map {f : α → β} (hx : Guarded x) : Guarded (x.map f) :=
  fun d hd => hx d (map_eq_error_iff.1 hd)

/-- A list is read without an absent member when each of its elements is. -/
theorem mapM {f : α → Checked β} {as : List α} (h : ∀ a ∈ as, Guarded (f a)) :
    Guarded (as.mapM f) := by
  induction as with
  | nil => exact ok []
  | cons a as ih =>
    obtain ⟨ha, has⟩ := List.forall_mem_cons.1 h
    rw [List.mapM_cons]
    exact ha.bind fun b _ => (ih has).bind fun bs _ => ok (b :: bs)

/-- What a guarded check yields: a result, or what is wrong. -/
theorem outcome (hx : Guarded x) : (∃ a, x = .ok a) ∨ ∃ d, x = .error d ∧ ¬ d.OfAbsence := by
  cases x with
  | ok a => exact .inl ⟨a, rfl⟩
  | error d => exact .inr ⟨d, rfl, hx d rfl⟩

end Checked.Guarded

open Checked (Guarded)

/-! ## The checks every part is made of -/

theorem Json.guarded_expectObject : Guarded (v.expectObject p) := by
  cases v with
  | object ms => exact .ok ms
  | _ => exact .refuse nofun

theorem Json.guarded_expectArray : Guarded (v.expectArray p) := by
  cases v with
  | array items => exact .ok items
  | _ => exact .refuse nofun

theorem Json.guarded_checkOneOf {allowed : List Json} : Guarded (v.checkOneOf p allowed) := by
  unfold checkOneOf
  split_ifs
  · exact .ok ()
  · exact .refuse nofun

/-- A flag is looked up among the two it may be, then taken as it is. -/
theorem Json.guarded_expectFlag : Guarded (v.expectFlag p) :=
  guarded_checkOneOf.bind fun _ _ => .ok _

theorem Json.guarded_expectOptionalText {place : Option Json} :
    Guarded (expectOptionalText p place) := by
  unfold expectOptionalText
  split
  · exact .ok _
  · exact .ok _
  · exact .ok _
  · exact .refuse nofun

theorem Json.guarded_checkText {expected : String} : Guarded (v.checkText p expected) := by
  unfold checkText
  split_ifs
  · exact .ok ()
  · exact .refuse nofun

theorem guarded_checkName {allowed : List String} {s : String} :
    Guarded (checkName p allowed s) := by
  unfold checkName
  split_ifs
  · exact .ok ()
  · exact .refuse nofun

/-- A name is looked up among the listed ones before it is read. -/
theorem guarded_readName {κ : Type} {name : κ → String} {all : List κ} {parse? : String → Option κ}
    {s : String} : Guarded (readName p name all parse? s) := by
  refine guarded_checkName.bind fun _ _ => ?_
  split
  · exact .ok _
  · exact .refuse nofun

/-- **A member can be taken where it is there, and only there.** -/
theorem Members.guarded_fetch_iff {key : String} : Guarded (ms.fetch p key) ↔ key ∈ ms.keys := by
  unfold fetch
  cases h : ms.get? key with
  | none => exact iff_of_false (fun hguarded => hguarded _ rfl ⟨key, rfl⟩) (get?_eq_none_iff.1 h)
  | some v => exact iff_of_true (.ok v) (mem_keys_iff.2 ⟨v, h⟩)

section Keys

variable {required optional : List String}

/-- The check of the keys tells of unknown and of missing keys, not of members taken. -/
theorem Members.guarded_checkKeys : Guarded (ms.checkKeys p required optional) := by
  unfold checkKeys
  dsimp only
  split_ifs
  · exact .refuse nofun
  · exact .refuse nofun
  · exact .ok ()

/-- What follows the check of the keys may rely on them. -/
theorem Checked.Guarded.afterKeys {f : Unit → Checked α}
    (h : ms.KeysAre required optional → Guarded (f ())) :
    Guarded (ms.checkKeys p required optional >>= f) :=
  Members.guarded_checkKeys.bind fun _ hu => h (Members.checkKeys_eq_ok_iff.1 hu)

/-- A required member is there. -/
theorem Members.KeysAre.guarded_fetch (h : ms.KeysAre required optional) {key : String}
    (hkey : key ∈ required) : Guarded (ms.fetch p key) :=
  guarded_fetch_iff.2 (h.complete key hkey)

end Keys

/-! ## Schema nodes -/

namespace Node

/-- The listed values are asked for, so there may be none. -/
theorem guarded_enumeration {kind : EnumKind} {member : Json → Option α} :
    Guarded (enumeration p ms kind member) := by
  unfold enumeration
  cases ms.get? "enum" with
  | none => exact .ok none
  | some v =>
    dsimp only
    cases v.asArray?.bind (·.mapM member) with
    | none => exact .refuse nofun
    | some members => exact .ok (some members)

theorem guarded_pattern : Guarded (pattern p ms) := by
  unfold pattern
  split
  · exact .ok none
  · exact .ok _
  · exact .refuse nofun

theorem guarded_minLength : Guarded (minLength p ms) := by
  unfold minLength
  cases ms.get? "minLength" with
  | none => exact .ok none
  | some v =>
    dsimp only
    cases v.asUnsigned? with
    | none => exact .refuse nofun
    | some n => exact .ok (some n)

/-- The names an object requires are asked for, and none are required where they are not given. -/
theorem guarded_requiredNames {declared : Members} : Guarded (requiredNames p ms declared) := by
  unfold requiredNames
  cases ms.get? "required" with
  | none => exact .ok []
  | some v =>
    refine Json.guarded_expectArray.bind fun items _ => ?_
    dsimp only
    split_ifs
    · exact .refuse nofun
    · exact .ok _

/-- The properties are taken without being asked for: the object has to have them. -/
theorem guarded_objectNode (h : "properties" ∈ ms.keys) : Guarded (objectNode p ms) := by
  unfold objectNode
  refine (Members.guarded_fetch_iff.2 h).bind fun v _ =>
    Json.guarded_expectObject.bind fun declared _ => ?_
  exact guarded_requiredNames.bind fun required _ => .ok _

theorem guarded_stringNode : Guarded (stringNode p ms) := by
  unfold stringNode
  refine guarded_enumeration.bind fun members _ => guarded_pattern.bind fun pattern _ => ?_
  exact guarded_minLength.bind fun minLength _ => .ok _

theorem guarded_choiceNode {kind : EnumKind} {member : Json → Option α} {make : Choice α → Schema} :
    Guarded (choiceNode p ms kind member make) := by
  unfold choiceNode
  exact guarded_enumeration.bind fun members _ => .ok _

/-- An object says what its properties are and an array what its elements are. -/
theorem guarded_typedNode {type : Json} : Guarded (typedNode p ms type) := by
  unfold typedNode
  split
  · exact .afterKeys fun keys => guarded_objectNode (keys.complete "properties" (by decide))
  · exact .afterKeys fun keys => (keys.guarded_fetch (by decide)).bind fun items _ => .ok _
  · exact .afterKeys fun _ => guarded_stringNode
  · exact .afterKeys fun _ => guarded_choiceNode
  · exact .afterKeys fun _ => guarded_choiceNode
  · exact .afterKeys fun _ => guarded_choiceNode
  · exact .refuse nofun

/-- The keys of a reference and of a union are optional ones: these two members are asked for before
they are taken. -/
theorem guarded_ofMembers : Guarded (ofMembers p ms) := by
  unfold ofMembers
  refine .afterKeys fun _ => ?_
  cases ms.get? "type" with
  | some type => exact guarded_typedNode.bind fun node _ => .ok _
  | none =>
    dsimp only
    split_ifs with href hunion
    · refine .afterKeys fun _ => ?_
      exact (Members.guarded_fetch_iff.2 (Members.has_iff.1 href)).bind fun target _ => .ok _
    · refine .afterKeys fun _ =>
        (Members.guarded_fetch_iff.2 (Members.has_iff.1 hunion)).bind fun v _ => ?_
      exact Json.guarded_expectArray.bind fun branches _ => .ok _
    · exact .refuse nofun

/-- A reference is looked up among the components, which tells of no member. -/
theorem guarded_resolve {target : Json} : Guarded (resolve components p target) := by
  unfold resolve
  split
  next => exact .refuse nofun
  next name _ =>
    cases Keyed.get? name components with
    | none => exact .refuse nofun
    | some s => exact .ok s

theorem guarded_isNullable {nullable : Option Json} : Guarded (isNullable p nullable) := by
  unfold isNullable
  split
  · exact .ok false
  · exact .ok false
  · exact .ok _
  · exact .refuse nofun

end Node

namespace Schema

theorem guarded_finish {nullable : Option Json} {s : Schema} : Guarded (finish p nullable s) :=
  Node.guarded_isNullable.map

/-! The induction is over the node, as that of `ofJson`: what stands below it is smaller. -/

mutual

/-- **A schema node takes no absent member**, at any place and against any components. -/
theorem guarded_ofJson (components : Components) (p : Location) :
    ∀ v, Guarded (ofJson components p v)
  | .object ms => by
    cases hnode : Node.ofMembers p ms with
    | error d =>
      rw [ofJson_of_error hnode]
      rintro _ ⟨⟩
      exact Node.guarded_ofMembers d hnode
    | ok node =>
      have below := Node.ofMembers_below hnode
      match node with
      | .reference target =>
        rw [ofJson_of_reference hnode]
        exact Node.guarded_resolve
      | .union branches =>
        have : sizeOf branches < sizeOf ms := below
        rw [ofJson_of_union hnode]
        exact (guarded_ofBranches components p 0 branches).map
      | .typed (.primitive s) nullable =>
        rw [ofJson_of_primitive hnode]
        exact guarded_finish
      | .typed (.array items) nullable =>
        have : sizeOf items < sizeOf ms := below
        rw [ofJson_of_array hnode]
        exact (guarded_ofJson components _ items).bind fun s _ => guarded_finish
      | .typed (.object declared required beside) nullable =>
        have : sizeOf declared < sizeOf ms := below.1
        have hproperties : Guarded (ofProperties components p declared) :=
          guarded_ofProperties components p declared
        have hbeside : Guarded (ofAdditional components p beside) := by
          match beside with
          | .allowed flag => exact .ok _
          | .schema w =>
            have : sizeOf w < sizeOf ms := below.2 w rfl
            exact (guarded_ofJson components _ w).map
        rw [ofJson_of_object hnode]
        exact hbeside.bind fun additional _ => hproperties.bind fun properties _ => guarded_finish
  | .null | .bool _ | .number _ | .string _ | .array _ => by
    simp only [ofJson]
    exact .refuse nofun
termination_by v => sizeOf v

theorem guarded_ofBranches (components : Components) (p : Location) (i : Nat) :
    ∀ vs, Guarded (ofBranches components p i vs)
  | [] => by
    rw [ofBranches]
    exact .ok []
  | v :: vs => by
    rw [ofBranches]
    refine (guarded_ofJson components _ v).bind fun s _ => ?_
    exact (guarded_ofBranches components p (i + 1) vs).bind fun ss _ => .ok (s :: ss)
termination_by vs => sizeOf vs

theorem guarded_ofProperties (components : Components) (p : Location) :
    ∀ ms : List (String × Json), Guarded (ofProperties components p ms)
  | [] => by
    rw [ofProperties]
    exact .ok []
  | (name, v) :: ms => by
    rw [ofProperties]
    refine (guarded_ofJson components _ v).bind fun s _ => ?_
    exact (guarded_ofProperties components p ms).bind fun ss _ => .ok ((name, s) :: ss)
termination_by ms => sizeOf ms

end

end Schema

/-! ## Bodies and parameters -/

section Body

variable {allowed : List Media}

/-- A content is guarded when each of its entries is, whatever its name. -/
theorem guarded_contentEntries {entry : Location → String → Members → Checked (Media × α)}
    {content : Members} (h : ∀ at_ name ms, Guarded (entry at_ name ms)) :
    Guarded (contentEntries p allowed entry content) := by
  unfold contentEntries
  refine Guarded.bind (.mapM fun ⟨name, v⟩ _ => ?_) fun entries _ => .ok _
  exact guarded_checkName.bind fun _ _ => Json.guarded_expectObject.bind fun ms _ => h _ _ ms

/-- An entry has its schema, by the check of its keys. -/
theorem guarded_schemaEntry : Guarded (schemaEntry components p ms) := by
  unfold schemaEntry
  exact .afterKeys fun keys => (keys.guarded_fetch (by decide)).bind fun v _ =>
    Schema.guarded_ofJson components _ v

theorem guarded_requestEntry {name : String} : Guarded (requestEntry components p name ms) :=
  guarded_schemaEntry.bind fun _ _ => .ok _

/-- The schema of an entry, or the example of a page, is required by its keys. -/
theorem guarded_responseEntry {name : String} : Guarded (responseEntry components p name ms) := by
  unfold responseEntry
  split
  · exact guarded_schemaEntry.bind fun s _ => .ok _
  · exact .afterKeys fun keys => (keys.guarded_fetch (by decide)).bind fun v _ => .ok _
  · exact .refuse nofun

/-- All that a request body is made of is required by its keys. -/
theorem RequestBody.guarded_ofJson : Guarded (RequestBody.ofJson components p v) := by
  unfold RequestBody.ofJson
  refine Json.guarded_expectObject.bind fun ms _ => .afterKeys fun keys => ?_
  refine (keys.guarded_fetch (by decide)).bind fun flag _ =>
    Json.guarded_expectFlag.bind fun required _ => ?_
  refine (keys.guarded_fetch (by decide)).bind fun content _ =>
    Json.guarded_expectObject.bind fun entries _ => ?_
  refine (guarded_contentEntries fun _ _ _ => guarded_requestEntry).bind fun content _ => ?_
  exact (keys.guarded_fetch (by decide)).bind fun description _ => .ok _

/-- A response may leave its content out, so the content is asked for. -/
theorem Response.guarded_ofJson : Guarded (Response.ofJson components p v) := by
  unfold Response.ofJson
  refine Json.guarded_expectObject.bind fun ms _ => .afterKeys fun keys => ?_
  cases ms.get? "content" with
  | none =>
    exact (Guarded.ok []).bind fun content _ =>
      (keys.guarded_fetch (by decide)).bind fun description _ => .ok _
  | some v =>
    refine Json.guarded_expectObject.bind fun entries _ => ?_
    refine (guarded_contentEntries fun _ _ _ => guarded_responseEntry).bind fun content _ => ?_
    exact (keys.guarded_fetch (by decide)).bind fun description _ => .ok _

end Body

theorem ParameterType.guarded_named : Guarded (named p v) := by
  unfold named
  split
  · exact .ok _
  · exact .ok _
  · exact .ok _
  · exact .refuse nofun

theorem ParameterType.guarded_ofJson {allowed : List ParameterType} :
    Guarded (ParameterType.ofJson p allowed v) :=
  Json.guarded_checkOneOf.bind fun _ _ => guarded_named

/-- The place of a parameter, and what the place calls for, are among its five keys. -/
theorem Parameter.guarded_placeOf
    (keys : ms.KeysAre ["name", "in", "description", "required", "schema"] []) :
    Guarded (placeOf p ms) := by
  unfold placeOf
  refine (keys.guarded_fetch (by decide)).bind fun place _ => ?_
  split
  · refine (keys.guarded_fetch (by decide)).bind fun required _ => ?_
    split_ifs
    · exact .refuse nofun
    · refine (keys.guarded_fetch (by decide)).bind fun schema _ => ?_
      exact ParameterType.guarded_ofJson.bind fun type _ => .ok _
  · refine (keys.guarded_fetch (by decide)).bind fun flag _ =>
      Json.guarded_expectFlag.bind fun required _ => ?_
    refine (keys.guarded_fetch (by decide)).bind fun schema _ => ?_
    exact ParameterType.guarded_ofJson.bind fun type _ => .ok _
  · exact .refuse nofun

/-- The five keys of a parameter are all required. -/
theorem Parameter.guarded_ofJson : Guarded (Parameter.ofJson p v) := by
  unfold Parameter.ofJson
  refine Json.guarded_expectObject.bind fun ms _ => .afterKeys fun keys => ?_
  refine (keys.guarded_fetch (by decide)).bind fun name _ => ?_
  refine (keys.guarded_fetch (by decide)).bind fun description _ => ?_
  exact (guarded_placeOf keys).bind fun place _ => .ok _

/-! ## Operations, paths and documents -/

namespace Operation

variable {t : Template}

/-- The parameters of the path are compared with the variables, and no member is taken. -/
theorem guarded_checkPathParameters {parameters : List Parameter} :
    Guarded (checkPathParameters p t parameters) := by
  unfold checkPathParameters
  dsimp only
  split_ifs
  · exact .refuse nofun
  · exact .refuse nofun
  · exact .ok ()

theorem guarded_tagOf : Guarded (tagOf p tags v) := by
  unfold tagOf
  split
  · split_ifs
    · exact .ok _
    · exact .refuse nofun
  · exact .refuse nofun

/-- An operation may have no parameters. -/
theorem guarded_parametersOf {place : Option Json} : Guarded (parametersOf p place) := by
  cases place with
  | none => exact .ok []
  | some v =>
    exact Json.guarded_expectArray.bind fun items _ => .mapM fun _ _ => Parameter.guarded_ofJson

/-- An operation may have no request body. -/
theorem guarded_requestBodyOf {place : Option Json} :
    Guarded (requestBodyOf components p place) := by
  cases place with
  | none => exact .ok none
  | some v => exact RequestBody.guarded_ofJson.map

/-- Each name is looked up and each response read, with nothing taken from the object itself. -/
theorem guarded_responsesOf : Guarded (responsesOf components p v) := by
  unfold responsesOf
  refine Json.guarded_expectObject.bind fun ms _ =>
    Guarded.bind (.mapM fun ⟨name, v⟩ _ => ?_) fun entries _ => .ok _
  exact guarded_readName.bind fun status _ => Response.guarded_ofJson.bind fun r _ => .ok _

/-- The responses and the tags of an operation are required by its keys; the rest is asked for. -/
theorem guarded_ofJson : Guarded (Operation.ofJson components tags t p v) := by
  unfold Operation.ofJson
  refine Json.guarded_expectObject.bind fun ms _ => .afterKeys fun keys => ?_
  refine Json.guarded_expectOptionalText.bind fun description _ => ?_
  refine Json.guarded_expectOptionalText.bind fun summary _ => ?_
  refine (keys.guarded_fetch (by decide)).bind fun v _ => guarded_tagOf.bind fun tag _ => ?_
  refine guarded_parametersOf.bind fun parameters _ =>
    guarded_checkPathParameters.bind fun _ _ => ?_
  refine guarded_requestBodyOf.bind fun requestBody _ => ?_
  exact (keys.guarded_fetch (by decide)).bind fun v _ =>
    guarded_responsesOf.bind fun responses _ => .ok _

end Operation

theorem Template.guarded_parse {raw : String} : Guarded (parse p raw) := by
  unfold parse
  split
  · split
    · exact .ok _
    · exact .refuse nofun
  · exact .refuse nofun

/-- Each verb is looked up and each operation read. -/
theorem guarded_operationsOf {t : Template} : Guarded (operationsOf components tags t p v) := by
  unfold operationsOf
  refine Json.guarded_expectObject.bind fun ms _ =>
    Guarded.bind (.mapM fun ⟨name, v⟩ _ => ?_) fun entries _ => .ok _
  exact guarded_readName.bind fun method _ => Operation.guarded_ofJson.bind fun op _ => .ok _

theorem PathEntry.guarded_ofJson {name : String} :
    Guarded (PathEntry.ofJson components tags name v) := by
  unfold PathEntry.ofJson
  exact Template.guarded_parse.bind fun t _ => guarded_operationsOf.bind fun operations _ => .ok _

theorem guarded_pathsOf : Guarded (pathsOf components tags v) := by
  unfold pathsOf
  refine Json.guarded_expectObject.bind fun ms _ => ?_
  exact Guarded.bind (.mapM fun _ _ => PathEntry.guarded_ofJson) fun entries _ => .ok _

theorem guarded_checkInfo : Guarded (checkInfo v) :=
  Json.guarded_expectObject.bind fun _ _ => Members.guarded_checkKeys

theorem guarded_tagsOf {place : Option Json} : Guarded (tagsOf place) := by
  cases place with
  | none => exact .ok []
  | some v =>
    refine Json.guarded_expectArray.bind fun items _ => .mapM fun tag _ => ?_
    refine Json.guarded_expectObject.bind fun ms _ => .afterKeys fun keys => ?_
    exact (keys.guarded_fetch (by decide)).bind fun name _ => .ok _

/-- The components may be left out; where they are given, their schemas are required. -/
theorem guarded_componentsOf {place : Option Json} : Guarded (componentsOf place) := by
  cases place with
  | none => exact .ok []
  | some v =>
    refine Json.guarded_expectObject.bind fun ms _ => .afterKeys fun keys => ?_
    refine (keys.guarded_fetch (by decide)).bind fun v _ =>
      Json.guarded_expectObject.bind fun schemas _ => ?_
    refine Guarded.bind (.mapM fun ⟨name, v⟩ _ => ?_) fun entries _ => .ok _
    exact (Schema.guarded_ofJson [] _ v).bind fun s _ => .ok _

/-- The version, the information and the paths are required by the keys of the document. -/
theorem Contract.guarded_ofJson {document : Json} : Guarded (Contract.ofJson document) := by
  unfold Contract.ofJson
  refine Json.guarded_expectObject.bind fun root _ => .afterKeys fun keys => ?_
  refine (keys.guarded_fetch (by decide)).bind fun openapi _ =>
    Json.guarded_checkText.bind fun _ _ => ?_
  refine (keys.guarded_fetch (by decide)).bind fun info _ => guarded_checkInfo.bind fun _ _ => ?_
  refine guarded_tagsOf.bind fun tags _ => guarded_componentsOf.bind fun components _ => ?_
  exact (keys.guarded_fetch (by decide)).bind fun paths _ =>
    guarded_pathsOf.bind fun entries _ => .ok _

/-- **No member is taken that is not there.**  Every document is read, or refused for a defect that
tells of no absent member; so is every schema node, at any place and against any components. -/
theorem Contract.no_absent_member :
    (∀ document, (∃ c, Contract.ofJson document = .ok c) ∨
      ∃ d, Contract.ofJson document = .error d ∧ ¬ d.OfAbsence) ∧
    ∀ components p v, (∃ s, Schema.ofJson components p v = .ok s) ∨
      ∃ d, Schema.ofJson components p v = .error d ∧ ¬ d.OfAbsence :=
  ⟨fun _ => guarded_ofJson.outcome,
    fun components p v => (Schema.guarded_ofJson components p v).outcome⟩

end ApiContract
