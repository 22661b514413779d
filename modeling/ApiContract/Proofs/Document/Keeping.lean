import ApiContract.Proofs.Document.Reader
import ApiContract.Proofs.Schema.Inlining
import ApiContract.Proofs.Schema.Keeping

/-!
# Proofs/Document/Keeping — reading loses and merges nothing

For each part of a document `KeptFrom` says what becomes of its members: parameters in order, and
every map one to one with the members it was read from (`Members.Corresponds`).
**`Contract.kept_of_ofJson`** says it of a whole document: its paths correspond to the members of
`paths`, their operations to the members of those, and so on down to the properties of every object.
-/

namespace ApiContract

variable {α : Type} {components : Components} {tags : List String} {t : Template} {ms : Members}
  {v : Json}

/-- **An object is kept**: it is read as this, wherever it stands, and so its members are kept. -/
def Json.Kept (read : Location → Json → Checked α) (KeptFrom : Members → α → Prop) (v : Json)
    (a : α) : Prop :=
  (∀ p, read p v = .ok a) ∧ v.Record KeptFrom a

/-! ## Places -/

section Place

variable {otherwise : α} {R S : Json → α → Prop} {place : Option Json} {a : α}

theorem Json.Optionally.imp (h : Json.Optionally otherwise R place a)
    (hS : ∀ v a, place = some v → R v a → S v a) : Json.Optionally otherwise S place a := by
  cases h with
  | absent => exact .absent
  | given h => exact .given (hS _ _ rfl h)

theorem Json.Items.imp {as : List α} (h : v.Items R as) (hS : ∀ v a, R v a → S v a) :
    v.Items S as := by
  obtain ⟨items, rfl, h⟩ := h
  exact ⟨items, rfl, h.imp hS⟩

end Place

/-- An object is kept when what its members declare is. -/
theorem Json.Record.kept {read : Location → Json → Checked α} {D KeptFrom : Members → α → Prop}
    (hread : ∀ p v a, read p v = .ok a ↔ Json.Record D v a)
    (hkept : ∀ ms a, (Json.object ms).HasDistinctKeys → D ms a → KeptFrom ms a)
    (hd : v.HasDistinctKeys) {a : α} (h : v.Record D a) : v.Kept read KeptFrom a := by
  refine ⟨fun p => (hread p v a).2 h, ?_⟩
  obtain ⟨ms, rfl, h⟩ := h
  exact ⟨ms, rfl, hkept ms a hd h⟩

/-! ## Bodies and responses -/

/-- A value is kept whose key `schema` has a schema that is. -/
def Members.SchemaKept (components : Components) (ms : Members) (s : Schema) : Prop :=
  ∃ v, ms.get? "schema" = some v ∧ s.Kept components v

/-- **The entry of a media type is kept**: JSON has its schema, and text its example. -/
inductive Content.Kept (components : Components) : Json → Media × Content → Prop
  | schema {ms : Members} {s : Schema} (h : ms.SchemaKept components s) :
    Kept components (.object ms) (.json, .schema s)
  | example {ms : Members} {v : Json} (h : ms.get? "example" = some v) :
    Kept components (.object ms) (.text, .example v)

/-- **The members of a request body are kept**: its content, of JSON only. -/
def RequestBody.KeptFrom (components : Components) (ms : Members) (b : RequestBody) : Prop :=
  ∃ content, ms.get? "content" = some (.object content) ∧
    Members.Corresponds (·.1.name)
      (fun v e => e.1 = .json ∧ v.Record (Members.SchemaKept components) e.2) content b.content

/-- **The members of a response are kept**: its content, where there is one. -/
def Response.KeptFrom (components : Components) (ms : Members) (r : Response) : Prop :=
  Json.Optionally [] (Json.Record (Members.Corresponds (·.1.name) (Content.Kept components)))
    (ms.get? "content") r.content

theorem Members.SchemaDeclared.kept {s : Schema} (hd : (Json.object ms).HasDistinctKeys)
    (h : ms.SchemaDeclared components s) : ms.SchemaKept components s := by
  obtain ⟨-, v, hv, hs⟩ := h
  exact ⟨v, hv, hs.kept (hd.get? hv)⟩

/-- The entry of a media type is kept, as JSON or as text. -/
theorem Content.DeclaredBy.kept {media : Media} {c : Content}
    (hd : (Json.object ms).HasDistinctKeys) (h : c.DeclaredBy components media ms) :
    Content.Kept components (.object ms) (media, c) := by
  rcases h with ⟨keys, hv, hs⟩ | ⟨-, hv⟩
  · exact .schema (Members.SchemaDeclared.kept hd ⟨keys, _, hv, hs⟩)
  · exact .example hv

/-- The content of a request body is kept entry by entry. -/
theorem RequestBody.DeclaredBy.keptFrom {b : RequestBody} (hd : (Json.object ms).HasDistinctKeys)
    (h : b.DeclaredBy components ms) : b.KeptFrom components ms := by
  obtain ⟨_, hget, content, rfl, hcontent⟩ := h.content
  unfold Members.RequestContent Members.ContentMap at hcontent
  have hd := hd.get? hget
  refine ⟨content, hget, (hcontent.corresponds hd.keys).imp ?_⟩
  rintro v ⟨media, s⟩ hv ⟨entry, rfl, hmedia, hs⟩
  exact ⟨List.mem_singleton.1 hmedia, entry, rfl, hs.kept (hd.get? hv)⟩

/-- The content of a response is kept entry by entry. -/
theorem Response.DeclaredBy.keptFrom {r : Response} (hd : (Json.object ms).HasDistinctKeys)
    (h : r.DeclaredBy components ms) : r.KeptFrom components ms := by
  refine h.content.imp fun v m hget hcontent => ?_
  obtain ⟨content, rfl, hcontent⟩ := hcontent
  unfold Members.ResponseContent Members.ContentMap at hcontent
  have hd := hd.get? hget
  refine ⟨content, rfl, (hcontent.corresponds hd.keys).imp ?_⟩
  rintro v ⟨media, c⟩ hv ⟨entry, rfl, -, hc⟩
  exact hc.kept (hd.get? hv)

/-! ## Operations and paths -/

/-- **The members of an operation are kept**: its parameters in order, its body, and its
responses. -/
structure Operation.KeptFrom (components : Components) (ms : Members) (op : Operation) : Prop where
  parameters : Json.Optionally [] (Json.Items fun v q => ∀ p, Parameter.ofJson p v = .ok q)
    (ms.get? "parameters") op.parameters
  requestBody : Json.Optionally none
    (fun v b => ∃ body,
      v.Kept (RequestBody.ofJson components) (RequestBody.KeptFrom components) body ∧
      some body = b)
    (ms.get? "requestBody") op.requestBody
  responses : ∃ responses, ms.get? "responses" = some (.object responses) ∧
    Members.Corresponds (·.1.name)
      (fun v r => v.Kept (Response.ofJson components) (Response.KeptFrom components) r.2)
      responses op.responses

/-- **A path is kept**: it is read as this, and its operations are those of its members. -/
def PathEntry.Kept (components : Components) (tags : List String) (v : Json) (e : PathEntry) :
    Prop :=
  PathEntry.ofJson components tags e.template.text v = .ok e ∧
    v.Record (Members.Corresponds (·.1.name) fun v o =>
      v.Kept (Operation.ofJson components tags e.template) (Operation.KeptFrom components) o.2)
      e.operations

/-- The parameters of an operation are kept in order, its responses by their names. -/
theorem Operation.DeclaredBy.keptFrom {op : Operation} (hd : (Json.object ms).HasDistinctKeys)
    (h : op.DeclaredBy components tags t ms) : op.KeptFrom components ms where
  parameters := h.parameters.imp fun _ _ _ hitems =>
    hitems.imp fun _ _ hq _ => Parameter.ofJson_eq_ok_iff.2 hq
  requestBody := h.requestBody.imp fun _ _ hget ⟨body, hbody, heq⟩ =>
    ⟨body, hbody.kept (fun _ _ _ => RequestBody.ofJson_eq_ok_iff)
      (fun _ _ => RequestBody.DeclaredBy.keptFrom) (hd.get? hget), heq⟩
  responses := by
    obtain ⟨_, hget, responses, rfl, hresponses⟩ := h.responses
    unfold Members.Responses at hresponses
    have hd := hd.get? hget
    refine ⟨responses, hget, (hresponses.corresponds hd.keys).imp fun v r hv hr => ?_⟩
    exact hr.kept (fun _ _ _ => Response.ofJson_eq_ok_iff)
      (fun _ _ => Response.DeclaredBy.keptFrom) (hd.get? hv)

/-- The operations of a path are kept by the names of their verbs. -/
theorem PathEntry.DeclaredBy.kept {name : String} {e : PathEntry} (hd : v.HasDistinctKeys)
    (h : e.DeclaredBy components tags (name, v)) : e.Kept components tags v := by
  refine ⟨h.1.text ▸ PathEntry.ofJson_eq_ok_iff.2 h, ?_⟩
  obtain ⟨-, ms, rfl, hoperations⟩ := h
  unfold Members.Operations at hoperations
  refine ⟨ms, rfl, (hoperations.corresponds hd.keys).imp fun v o hv ho => ?_⟩
  exact ho.kept (fun _ _ _ => Operation.ofJson_eq_ok_iff)
    (fun _ _ => Operation.DeclaredBy.keptFrom) (hd.get? hv)

/-! ## The document -/

/-- **The components are kept**: they are those of the members of `schemas`. -/
def Members.ComponentsKept (ms : Members) (components : Components) : Prop :=
  ∃ schemas, ms.get? "schemas" = some (.object schemas) ∧
    Members.Corresponds Prod.fst (fun v q => q.2.Kept [] v) schemas components

/-- **The members of a document are kept**: its components, and its paths by their texts. -/
def Contract.KeptFrom (root : Members) (c : Contract) : Prop :=
  ∃ tags components paths, tagsOf (root.get? "tags") = .ok tags ∧
    componentsOf (root.get? "components") = .ok components ∧
    Json.Optionally [] (Json.Record Members.ComponentsKept) (root.get? "components") components ∧
    root.get? "paths" = some (.object paths) ∧
    Members.Corresponds (·.template.text) (PathEntry.Kept components tags) paths c.paths

/-- The components are kept by their names. -/
theorem Members.DeclareComponents.kept (hd : (Json.object ms).HasDistinctKeys)
    (h : ms.DeclareComponents components) : ms.ComponentsKept components := by
  obtain ⟨_, hget, schemas, rfl, hschemas⟩ := h.schemas
  have hd := hd.get? hget
  exact ⟨schemas, hget, (hschemas.corresponds hd.keys).imp fun v q hv hq => hq.kept (hd.get? hv)⟩

/-- The paths of a document correspond to its members by their texts, in whatever order they are
tried. -/
theorem Members.Paths.corresponds {paths : List PathEntry} (hd : (Json.object ms).HasDistinctKeys)
    (h : ms.Paths components tags paths) :
    Members.Corresponds (·.template.text) (PathEntry.Kept components tags) ms paths := by
  obtain ⟨entries, hentries, rfl⟩ := h
  exact .of_forall₂ hd.keys hentries (fun _ _ he => he.1.text.symm)
    (fun _ hm _ he => he.kept (hd.member hm)) Template.perm_sortBySpecificity

/-- **Reading loses and merges nothing.**  In a contract that is read from a document, whose keys
differ, paths, operations, responses and media types are one to one with the members they were read
from, parameters are those of the array in order, and the properties of each object in a schema are
those of its node. -/
theorem Contract.kept_of_ofJson {document : Json} {c : Contract} (hd : document.HasDistinctKeys)
    (hc : Contract.ofJson document = .ok c) : document.Record Contract.KeptFrom c := by
  obtain ⟨root, rfl, hroot⟩ := Contract.ofJson_eq_ok_iff.1 hc
  obtain ⟨tags, components, _, htags, hcomponents, hget, paths, rfl, hpaths⟩ := hroot.paths
  have hkept : Json.Optionally [] (Json.Record Members.ComponentsKept) _ components :=
    hcomponents.imp fun v m hv ⟨ms, heq, h⟩ => ⟨ms, heq, h.kept (heq ▸ hd.get? hv)⟩
  exact ⟨root, rfl, tags, components, paths, tagsOf_eq_ok_iff.2 htags,
    componentsOf_eq_ok_iff.2 hcomponents, hkept, hget, hpaths.corresponds (hd.get? hget)⟩

/-- The document of an operation whose body is an object, with a property. -/
theorem petDocument_kept :
    (bodyDocument Schema.petDefinition).HasDistinctKeys ∧
      (bodyDocument Schema.petDefinition).Record Contract.KeptFrom
        ⟨[newPetPath Schema.petSchema]⟩ := by
  have hdistinct : (bodyDocument Schema.petDefinition).HasDistinctKeys := by
    simp [bodyDocument, postPetMembers, petBodyMembers, Schema.petDefinition, Members.keys]
  have hread := ofJson_bodyDocument (Schema.declaredBy_of_ofJson (Schema.ofJson_petDefinition ""))
  exact ⟨hdistinct, Contract.kept_of_ofJson hdistinct hread⟩

end ApiContract
