import ApiContract.Contract.Dump
import ApiContract.Proofs.Document.Lookup
import ApiContract.Proofs.Schema.Rendering

/-!
# Proofs/Document/Dump — the dump of a contract tells the contract

Equal dumps are of equal contracts, part by part: a template by its text and pieces, content by what
it is of, an operation by what it declares and what it leaves out.  **`Contract.equalBy_of_dump`**
says so for either notion of equal values; **`Contract.dump_faithful`** for dumps that are equal, of
any contracts, and for dumps that are the same document, of contracts that were read.
-/

namespace ApiContract

/-! ## Equal contracts -/

section EqualBy

variable (R : Json → Json → Prop)

/-- Equal request bodies. -/
structure RequestBody.EqualBy (b b' : RequestBody) : Prop where
  description : b.description = b'.description
  required : b.required = b'.required
  content : Keyed.Rel (Schema.EqualBy R) b.content b'.content

/-- Equal content, examples being equal by `R`. -/
inductive Content.EqualBy : Content → Content → Prop
  | schema {s s' : Schema} (h : s.EqualBy R s') : EqualBy (.schema s) (.schema s')
  | example {v v' : Json} (h : R v v') : EqualBy (.example v) (.example v')

/-- Equal responses. -/
structure Response.EqualBy (r r' : Response) : Prop where
  description : r.description = r'.description
  content : Keyed.Rel (Content.EqualBy R) r.content r'.content

/-- Equal operations. -/
structure Operation.EqualBy (op op' : Operation) : Prop where
  summary : op.summary = op'.summary
  description : op.description = op'.description
  tag : op.tag = op'.tag
  parameters : op.parameters = op'.parameters
  requestBody : Option.Rel (RequestBody.EqualBy R) op.requestBody op'.requestBody
  responses : Keyed.Rel (Response.EqualBy R) op.responses op'.responses

/-- Equal paths with equal operations. -/
structure PathEntry.EqualBy (e e' : PathEntry) : Prop where
  template : e.template = e'.template
  operations : Keyed.Rel (Operation.EqualBy R) e.operations e'.operations

/-- **Equal contracts**: the same but for floats in schemas and for examples, which are equal by
`R`. -/
def Contract.EqualBy (c c' : Contract) : Prop := List.Forall₂ (PathEntry.EqualBy R) c.paths c'.paths

end EqualBy

attribute [ext] Template Parameter RequestBody Response Operation PathEntry Contract

/-- Request bodies that are equal by equality are equal. -/
theorem RequestBody.EqualBy.eq {b b' : RequestBody} (h : b.EqualBy Eq b') : b = b' :=
  RequestBody.ext h.description h.required (h.content.eq fun _ _ _ => Schema.EqualBy.eq)

theorem Content.EqualBy.eq {c c' : Content} (h : c.EqualBy Eq c') : c = c' := by
  cases h with
  | schema h => rw [h.eq]
  | «example» h => rw [h]

theorem Response.EqualBy.eq {r r' : Response} (h : r.EqualBy Eq r') : r = r' :=
  Response.ext h.description (h.content.eq fun _ _ _ => Content.EqualBy.eq)

/-- So are operations, part by part. -/
theorem Operation.EqualBy.eq {op op' : Operation} (h : op.EqualBy Eq op') : op = op' :=
  Operation.ext h.summary h.description h.tag h.parameters
    (eq_of_optionRel (fun _ _ => RequestBody.EqualBy.eq) h.requestBody)
    (h.responses.eq fun _ _ _ => Response.EqualBy.eq)

theorem PathEntry.EqualBy.eq {e e' : PathEntry} (h : e.EqualBy Eq e') : e = e' :=
  PathEntry.ext h.template (h.operations.eq fun _ _ _ => Operation.EqualBy.eq)

/-- **Contracts that are equal by equality** are equal. -/
theorem Contract.EqualBy.eq {c c' : Contract} (h : c.EqualBy Eq c') : c = c' :=
  Contract.ext (eq_of_forall₂ (fun _ _ _ => PathEntry.EqualBy.eq) h)

/-! ## Contracts of maps -/

/-- A map whose values all have a property. -/
structure Keyed.IsMap {κ α : Type} [Ord κ] (P : α → Prop) (m : List (κ × α)) : Prop where
  ascending : Keyed.Ascending m
  values : ∀ e ∈ m, P e.2

/-- A request body whose content is a map of schemas of maps. -/
def RequestBody.HasMaps (b : RequestBody) : Prop := Keyed.IsMap Schema.HasMaps b.content

/-- Content whose schema, if it has one, is of maps. -/
def Content.HasMaps : Content → Prop
  | .schema s => s.HasMaps
  | .example _ => True

/-- A response whose content is a map. -/
def Response.HasMaps (r : Response) : Prop := Keyed.IsMap Content.HasMaps r.content

/-- An operation whose responses are a map, its body and each of them of maps. -/
structure Operation.HasMaps (op : Operation) : Prop where
  requestBody : ∀ b, op.requestBody = some b → b.HasMaps
  responses : Keyed.IsMap Response.HasMaps op.responses

/-- A path whose operations are a map of such. -/
def PathEntry.HasMaps (e : PathEntry) : Prop := Keyed.IsMap Operation.HasMaps e.operations

/-- **A contract of maps**: operations, responses, content and properties ascend. -/
def Contract.HasMaps (c : Contract) : Prop := ∀ e ∈ c.paths, e.HasMaps

/-- An operation that is well formed is of maps when the schemas of its bodies are. -/
theorem Operation.WellFormed.hasMaps {op : Operation} (h : op.WellFormed)
    (hs : ∀ s ∈ op.bodySchemas, s.HasMaps) : op.HasMaps where
  requestBody b hb := by
    refine ⟨h.requestContent b hb, fun e he => hs _ (List.mem_append_left _ ?_)⟩
    exact List.mem_flatMap.2 ⟨b, Option.mem_toList.2 hb, List.mem_map_of_mem he⟩
  responses := by
    refine ⟨h.responses, fun o ho => ⟨(h.responseContent o ho).1, fun e he => ?_⟩⟩
    cases hc : e.2 with
    | schema s =>
      refine hs s (List.mem_append_right _ (List.mem_flatMap.2 ⟨o, ho, ?_⟩))
      refine List.mem_filterMap.2 ⟨e, he, ?_⟩
      rw [hc]
      rfl
    | «example» => trivial

/-- **What is read is a contract of maps.** -/
theorem Contract.hasMaps_of_ofJson {document : Json} {c : Contract}
    (hc : Contract.ofJson document = .ok c) : c.HasMaps := by
  intro e he
  obtain ⟨hoperations, hwellFormed⟩ := Contract.wellFormed hc he
  refine ⟨hoperations, fun o ho => (hwellFormed o ho).hasMaps fun s hs => ?_⟩
  exact hasMaps_of_bodySchema hc (List.mem_flatMap.2 ⟨e, he, List.mem_flatMap.2 ⟨o, ho, hs⟩⟩)

/-! ## What equal dumps tell -/

/-- The document of a schema has one of two keywords. -/
theorem Schema.exists_keyword (s : Schema) :
    ∃ key v, (key = "type" ∨ key = "oneOf") ∧ s.keywords.get? key = some v := by
  cases s with
  | oneOf => exact ⟨"oneOf", _, .inr rfl, rfl⟩
  | _ => exact ⟨"type", _, .inl rfl, rfl⟩

/-- What the dump of an operation has under each of its keys. -/
structure Operation.DumpsAs (op : Operation) (ms : Members) : Prop where
  distinct : ms.keys.Nodup
  summary : ms.get? "summary" = some (.string op.summary)
  description : ms.get? "description" = op.description.map .string
  tag : ms.get? "tag" = some (.string op.tag)
  parameters : ms.get? "parameters" = some (.array (op.parameters.map Parameter.dump))
  requestBody : ms.get? "requestBody" = op.requestBody.map RequestBody.dump
  responses : ms.get? "responses" = some (.object (op.responses.map fun r => (r.1.name, r.2.dump)))

/-- The dump of an operation is an object that has just these members. -/
theorem Operation.exists_dump_eq (op : Operation) : ∃ ms, op.dump = .object ms ∧ op.DumpsAs ms := by
  refine ⟨_, rfl, ?_⟩
  obtain ⟨summary, description, tag, parameters, requestBody, responses⟩ := op
  cases description <;> cases requestBody <;>
    exact ⟨by simp [optionalMember, Members.keys], rfl, rfl, rfl, rfl, rfl, rfl⟩

section Likeness

variable {free : Prop} {R : Json → Json → Prop}

/-- **A map of things that are told by their dumps** is told by its own. -/
theorem Json.Likeness.mapOf {κ α : Type} [Ord κ] [Std.OrientedOrd κ] [Std.LawfulEqOrd κ]
    (hR : Json.Likeness free R) {name : κ → String} (hn : Function.Injective name)
    {value : α → Json} {P : α → Prop} {A : α → α → Prop} {m m' : List (κ × α)}
    (hm : free → Keyed.IsMap P m) (hm' : free → Keyed.IsMap P m')
    (h : R (.object (m.map fun e => (name e.1, value e.2)))
      (.object (m'.map fun e => (name e.1, value e.2))))
    (hA : ∀ a a', (free → P a) → (free → P a') → R (value a) (value a') → A a a') :
    Keyed.Rel A m m' :=
  hR.map hn (fun hfree => (hm hfree).ascending) (fun hfree => (hm' hfree).ascending) h
    fun e he e' he' => hA e.2 e'.2 (fun hfree => (hm hfree).values e he)
      fun hfree => (hm' hfree).values e' he'

variable (hR : Json.Likeness free R)

include hR

/-- A segment is told by its kind, and by the value or the name that it has. -/
theorem Segment.eq_of_dump {x x' : Segment} (h : R x.dump x'.dump) : x = x' := by
  cases x with
  | const value =>
    have hd : ["kind", "value"].Nodup := by decide
    cases x' with
    | const value' => rw [hR.string_eq (hR.field h hd "value" rfl rfl)]
    | var name' => exact absurd (hR.string_eq (hR.field h hd "kind" rfl rfl)) (by decide)
  | var name =>
    have hd : ["kind", "name"].Nodup := by decide
    cases x' with
    | const value' => exact absurd (hR.string_eq (hR.field h hd "kind" rfl rfl)) (by decide)
    | var name' => rw [hR.string_eq (hR.field h hd "name" rfl rfl)]

/-- A template is told by its segments and its text. -/
theorem Template.eq_of_dump {t t' : Template} (h : R t.dump t'.dump) : t = t' := by
  have hd : ["original", "segments"].Nodup := by decide
  have hsegments := hR.list (hR.field h hd "segments" rfl rfl) fun _ _ _ _ => Segment.eq_of_dump hR
  exact Template.ext (hR.string_eq (hR.field h hd "original" rfl rfl))
    (eq_of_forall₂ (fun _ _ _ => id) hsegments)

/-- The type of a parameter is told by its name. -/
theorem ParameterType.eq_of_document {t t' : ParameterType} (h : R t.document t'.document) :
    t = t' := by
  have hd : ["type"].Nodup := by decide
  have hname : t.name = t'.name := hR.string_eq (hR.field h hd "type" rfl rfl)
  exact document_injective (by rw [document, document, hname])

/-- A parameter is told by its five members. -/
theorem Parameter.eq_of_dump {q q' : Parameter} (h : R q.dump q'.dump) : q = q' := by
  have hd : ["name", "in", "description", "required", "schema"].Nodup := by decide
  have hplace : q.place = q'.place := by
    have hname : q.place.name = q'.place.name := hR.string_eq (hR.field h hd "in" rfl rfl)
    generalize q.place = place, q'.place = place' at hname
    cases place <;> cases place' <;> first | rfl | exact absurd hname (by decide)
  exact Parameter.ext (hR.string_eq (hR.field h hd "name" rfl rfl)) hplace
    (hR.string_eq (hR.field h hd "description" rfl rfl))
    (hR.bool_eq (hR.field h hd "required" rfl rfl))
    (ParameterType.eq_of_document hR (hR.field h hd "schema" rfl rfl))

/-- A request body is told by its dump, its content up to what counts as equal. -/
theorem RequestBody.equalBy_of_dump {b b' : RequestBody} (hb : free → b.HasMaps)
    (hb' : free → b'.HasMaps) (h : R b.dump b'.dump) : b.EqualBy R b' := by
  have hd : ["description", "required", "content"].Nodup := by decide
  have hcontent : R (dumpContent Schema.render b.content) (dumpContent Schema.render b'.content) :=
    hR.field h hd "content" rfl rfl
  exact {
    description := hR.string_eq (hR.field h hd "description" rfl rfl)
    required := hR.bool_eq (hR.field h hd "required" rfl rfl)
    content :=
      hR.mapOf Media.name_injective hb hb' hcontent fun _ _ => Schema.equalBy_of_render hR }

/-- Content is told by its dump: a schema has a keyword that an example has not. -/
theorem Content.equalBy_of_dump {c c' : Content} (hc : free → c.HasMaps) (hc' : free → c'.HasMaps)
    (h : R c.dump c'.dump) : c.EqualBy R c' := by
  -- an example has none of the keywords that a schema has
  have hexample {key : String} (v : Json) (hkey : key = "type" ∨ key = "oneOf") :
      Members.get? [("example", v)] key = none := by
    rcases hkey with rfl | rfl <;> rfl
  cases c with
  | schema s =>
    cases c' with
    | schema s' => exact .schema (Schema.equalBy_of_render hR hc hc' h)
    | «example» v' =>
      obtain ⟨key, v, hkey, hv⟩ := s.exists_keyword
      rw [dump, Schema.render_eq] at h
      have hrel := hR.record key h s.nodup_keywords
      rw [hv, hexample v' hkey] at hrel
      cases hrel
  | «example» v =>
    have hd : ["example"].Nodup := by decide
    cases c' with
    | schema s' =>
      obtain ⟨key, v', hkey, hv'⟩ := s'.exists_keyword
      rw [dump, dump, Schema.render_eq] at h
      have hrel := hR.record key h hd
      rw [hv', hexample v hkey] at hrel
      cases hrel
    | «example» v' => exact .example (hR.field h hd "example" rfl rfl)

/-- A response is told by its dump. -/
theorem Response.equalBy_of_dump {r r' : Response} (hr : free → r.HasMaps) (hr' : free → r'.HasMaps)
    (h : R r.dump r'.dump) : r.EqualBy R r' := by
  have hd : ["description", "content"].Nodup := by decide
  have hcontent : R (dumpContent Content.dump r.content) (dumpContent Content.dump r'.content) :=
    hR.field h hd "content" rfl rfl
  exact {
    description := hR.string_eq (hR.field h hd "description" rfl rfl)
    content := hR.mapOf Media.name_injective hr hr' hcontent fun _ _ => Content.equalBy_of_dump hR }

/-- An operation is told by its dump, down to what it leaves out. -/
theorem Operation.equalBy_of_dump {op op' : Operation} (hop : free → op.HasMaps)
    (hop' : free → op'.HasMaps) (h : R op.dump op'.dump) : op.EqualBy R op' := by
  obtain ⟨ms, heq, hms⟩ := op.exists_dump_eq
  obtain ⟨ms', heq', hms'⟩ := op'.exists_dump_eq
  rw [heq, heq'] at h
  have hd := hms.distinct
  have hparameters := hR.list (hR.field h hd "parameters" hms.parameters hms'.parameters)
    fun _ _ _ _ => Parameter.eq_of_dump hR
  have hdescription :=
    hR.optional h hd "description" hms.description hms'.description fun _ _ _ _ => hR.string_eq
  exact {
    summary := hR.string_eq (hR.field h hd "summary" hms.summary hms'.summary)
    description := eq_of_optionRel (fun _ _ => id) hdescription
    tag := hR.string_eq (hR.field h hd "tag" hms.tag hms'.tag)
    parameters := eq_of_forall₂ (fun _ _ _ => id) hparameters
    requestBody := hR.optional h hd "requestBody" hms.requestBody hms'.requestBody
      fun b hb b' hb' => RequestBody.equalBy_of_dump hR
        (fun hfree => (hop hfree).requestBody b hb) fun hfree => (hop' hfree).requestBody b' hb'
    responses := hR.mapOf Status.name_injective (fun hfree => (hop hfree).responses)
      (fun hfree => (hop' hfree).responses) (hR.field h hd "responses" hms.responses hms'.responses)
      fun _ _ => Response.equalBy_of_dump hR }

/-- A path is told by its dump. -/
theorem PathEntry.equalBy_of_dump {e e' : PathEntry} (he : free → e.HasMaps)
    (he' : free → e'.HasMaps) (h : R e.dump e'.dump) : e.EqualBy R e' := by
  have hd : ["template", "operations"].Nodup := by decide
  exact {
    template := Template.eq_of_dump hR (hR.field h hd "template" rfl rfl)
    operations := hR.mapOf Method.name_injective he he' (hR.field h hd "operations" rfl rfl)
      fun _ _ => Operation.equalBy_of_dump hR }

/-- **The dump of a contract tells the contract.** -/
theorem Contract.equalBy_of_dump {c c' : Contract} (hc : free → c.HasMaps) (hc' : free → c'.HasMaps)
    (h : R c.dump c'.dump) : c.EqualBy R c' := by
  have hd : ["paths"].Nodup := by decide
  exact hR.list (hR.field h hd "paths" rfl rfl) fun e he e' he' =>
    PathEntry.equalBy_of_dump hR (fun hfree => hc hfree e he) fun hfree => hc' hfree e' he'

end Likeness

/-- **The dump loses nothing.**  Contracts with equal dumps are equal, as are schemas with equal
documents.  And where neither the order of members nor the sign of a zero counts, contracts that
were read and whose dumps are the same are equal but for the like of that in floats and examples,
and so are any two schemas of maps. -/
theorem Contract.dump_faithful :
    (∀ c c' : Contract, c.dump = c'.dump → c = c') ∧
      (∀ s s' : Schema, s.render = s'.render → s = s') ∧
      (∀ (document document' : Json) (c c' : Contract), Contract.ofJson document = .ok c →
        Contract.ofJson document' = .ok c' → c.dump.same c'.dump = true →
        c.EqualBy (fun v v' => v.same v' = true) c') ∧
      ∀ s s' : Schema, s.HasMaps → s'.HasMaps → s.render.same s'.render = true →
        s.EqualBy (fun v v' => v.same v' = true) s' := by
  refine ⟨fun c c' h => ?_, fun s s' h => ?_, fun document document' c c' hc hc' h => ?_,
    fun s s' hs hs' h => ?_⟩
  · exact (Contract.equalBy_of_dump Json.likeness_eq False.elim False.elim h).eq
  · exact (Schema.equalBy_of_render Json.likeness_eq False.elim False.elim h).eq
  · exact Contract.equalBy_of_dump Json.likeness_same (fun _ => hasMaps_of_ofJson hc)
      (fun _ => hasMaps_of_ofJson hc') h
  · exact Schema.equalBy_of_render Json.likeness_same (fun _ => hs) (fun _ => hs') h

/-! A body that is zero, of either sign. -/

/-- A node that lists zero, of a sign. -/
def zeroNode (negative : Bool) : Json :=
  .object [("type", .string "float"), ("enum", .array [.number (.float (.zero negative))])]

/-- What the node is read as. -/
def zeroSchema (negative : Bool) : Schema := .float { members := some [.zero negative] }

/-- The contract of a body of that schema. -/
def zeroContract (negative : Bool) : Contract := ⟨[newPetPath (zeroSchema negative)]⟩

/-- The document of such a body has that contract. -/
theorem ofJson_zeroDocument (negative : Bool) :
    Contract.ofJson (bodyDocument (zeroNode negative)) = .ok (zeroContract negative) :=
  ofJson_bodyDocument
    (.primitive (.typed rfl (.float (.of_checkKeys rfl) (.listed (.cons (.inr rfl) .nil)))) .absent)

/-- The two contracts differ, but their dumps are the same, so they are equal but for the sign; and
no other contract has the dump of the one, no other schema the document of its body. -/
theorem zeroDumps_faithful :
    (∀ c : Contract, c.dump = (zeroContract false).dump → c = zeroContract false) ∧
      (∀ s : Schema, s.render = (zeroSchema false).render → s = zeroSchema false) ∧
      (zeroContract false).EqualBy (fun v v' => v.same v' = true) (zeroContract true) ∧
      (zeroSchema false).EqualBy (fun v v' => v.same v' = true) (zeroSchema true) ∧
      zeroSchema false ≠ zeroSchema true := by
  obtain ⟨contracts, schemas, readContracts, mapSchemas⟩ := Contract.dump_faithful
  have hsame : (zeroSchema false).render.same (zeroSchema true).render = true := by decide +kernel
  have hdumps : (zeroContract false).dump.same (zeroContract true).dump = true := by decide +kernel
  have hmaps (negative : Bool) : (zeroSchema negative).HasMaps := fun _ _ _ hw => nomatch hw
  exact ⟨fun c => contracts c _, fun s => schemas s _,
    readContracts _ _ _ _ (ofJson_zeroDocument false) (ofJson_zeroDocument true) hdumps,
    mapSchemas _ _ (hmaps false) (hmaps true) hsame, fun h => by cases h⟩

end ApiContract
