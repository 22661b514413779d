import ApiContract.Proofs.Document.Reader
import ApiContract.Proofs.Schema.Amendment

/-!
# Proofs/Document/Amendment — the first violation in document order wins

`Contract.Amended` relates documents that differ in what comes after a refused member of a list: of
the schemas of the components, of the paths, the operations of a path, the parameters, the
responses, the content of a body, and of the properties and branches of a schema at any depth.  What
is refused is refused in its own surroundings: against the components and tags of the document, and
the template of the path.  **`Contract.first_violation_wins`**: such documents are refused alike.
-/

namespace ApiContract

open Checked (RefusedAlike)
open Json (AmendedField AmendedObject AmendedArray)

variable {α : Type} {components : Components} {tags : List String} {t : Template} {p q : Location}
  {v v' : Json} {ms ms' : Members}

theorem Checked.ok_bind {β : Type} {a : α} {f : α → Checked β} :
    ((.ok a : Checked α) >>= f) = f a := rfl

/-! ## Bodies -/

/-- **Content amended after a refused entry**, or within the schema of an entry of JSON. -/
def Json.AmendedContent (components : Components) (p : Location)
    (read : Members → Checked (List (Media × α))) : Json → Json → Prop :=
  AmendedObject (fun m => ∃ d, read [m] = .error d) fun name v v' => name = Media.json.name ∧
    AmendedField "schema" (Schema.Amended components ((p.member name).member "schema")) v v'

/-- An entry is refused alike when its schema is. -/
theorem refusedAlike_schemaEntry
    (h : AmendedField "schema" (Schema.Amended components (p.member "schema")) v v') :
    RefusedAlike (v.expectObject p >>= schemaEntry components p)
      (v'.expectObject p >>= schemaEntry components p) := by
  cases h with
  | mk hr h =>
    simp only [Json.expectObject_bind, schemaEntry, hr.checkKeys_eq, hr.fetch_old_bind,
      hr.fetch_new_bind]
    exact .after fun _ => h.refusedAlike

/-- Content is refused alike when its entries of JSON are. -/
theorem refusedAlike_contentEntries {allowed : List Media}
    {entry : Location → String → Members → Checked (Media × α)}
    (hentry : ∀ p v v', AmendedField "schema" (Schema.Amended components (p.member "schema")) v v' →
      RefusedAlike (v.expectObject p >>= entry p Media.json.name)
        (v'.expectObject p >>= entry p Media.json.name))
    (h : Json.AmendedContent components p (contentEntries p allowed entry) v v') :
    RefusedAlike (v.expectObject q >>= contentEntries p allowed entry)
      (v'.expectObject q >>= contentEntries p allowed entry) := by
  unfold contentEntries at h ⊢
  refine AmendedObject.refusedAlike h (fun m hm => .of_singleton hm) ?_
  rintro _ v v' ⟨rfl, h⟩
  exact .after fun _ => hentry _ _ _ h

/-- What reads the content of a request body. -/
def requestContent (components : Components) (p : Location) :
    Members → Checked (List (Media × Schema)) :=
  contentEntries p [.json] (requestEntry components)

/-- What reads the content of a response. -/
def responseContent (components : Components) (p : Location) :
    Members → Checked (List (Media × Content)) :=
  contentEntries p [.json, .text] (responseEntry components)

/-- A request body amended in its content. -/
def RequestBody.Amended (components : Components) (p : Location) : Json → Json → Prop :=
  AmendedField "content" (Json.AmendedContent components p (requestContent components p))

/-- A response amended in its content. -/
def Response.Amended (components : Components) (p : Location) : Json → Json → Prop :=
  AmendedField "content" (Json.AmendedContent components p (responseContent components p))

/-- A request body that is amended in its content is refused alike. -/
theorem RequestBody.Amended.refusedAlike (h : Amended components p v v') :
    RefusedAlike (RequestBody.ofJson components p v) (RequestBody.ofJson components p v') := by
  cases h with
  | mk hr h =>
    have hentry (p : Location) (v v' : Json)
        (h : AmendedField "schema" (Schema.Amended components (p.member "schema")) v v') :
        RefusedAlike (v.expectObject p >>= requestEntry components p Media.json.name)
          (v'.expectObject p >>= requestEntry components p Media.json.name) :=
      (refusedAlike_schemaEntry h).bind_bind
    have hcontent := refusedAlike_contentEntries hentry h (q := p.member "content")
    simp only [RequestBody.ofJson, Json.expectObject_bind, hr.checkKeys_eq,
      hr.fetch_eq (show "required" ≠ "content" by decide), hr.fetch_old_bind, hr.fetch_new_bind]
    exact .after fun _ => .after fun _ => .after fun _ => hcontent.bind_bind

/-- A response that is amended in its content is refused alike. -/
theorem Response.Amended.refusedAlike (h : Amended components p v v') :
    RefusedAlike (Response.ofJson components p v) (Response.ofJson components p v') := by
  cases h with
  | mk hr h =>
    have hentry (p : Location) (v v' : Json)
        (h : AmendedField "schema" (Schema.Amended components (p.member "schema")) v v') :
        RefusedAlike (v.expectObject p >>= responseEntry components p Media.json.name)
          (v'.expectObject p >>= responseEntry components p Media.json.name) :=
      (refusedAlike_schemaEntry h).bind_bind
    have hcontent := refusedAlike_contentEntries hentry h (q := p.member "content")
    simp only [Response.ofJson, Json.expectObject_bind, hr.checkKeys_eq, hr.old, hr.new]
    exact .after fun _ => hcontent.bind_bind

/-! ## Operations -/

/-- **An operation amended after a refusal**: after a refused parameter, or in the content of its
request body, or after a refused response or in the content of one. -/
inductive Operation.Amended (components : Components) (p : Location) : Json → Json → Prop
  | parameters {v v' : Json}
    (h : AmendedField "parameters"
      (AmendedArray fun i q =>
        ∃ d, Parameter.ofJson ((p.member "parameters").element i) q = .error d) v v') :
    Amended components p v v'
  | requestBody {v v' : Json}
    (h : AmendedField "requestBody" (RequestBody.Amended components (p.member "requestBody"))
      v v') :
    Amended components p v v'
  | responses {v v' : Json}
    (h : AmendedField "responses"
      (AmendedObject
        (fun m => ∃ d, responsesOf components (p.member "responses") (.object [m]) = .error d)
        fun name => Response.Amended components ((p.member "responses").member name)) v v') :
    Amended components p v v'

/-- Parameters are refused alike when they differ after a refused one. -/
theorem Operation.refusedAlike_parametersOf
    (h : AmendedArray (fun i q =>
      ∃ d, Parameter.ofJson ((p.member "parameters").element i) q = .error d) v v') :
    RefusedAlike (parametersOf p (some v)) (parametersOf p (some v')) := by
  cases h with
  | later h => exact .mapM_zipIdx h

/-- Responses are refused alike when they differ after a refused one, or within one. -/
theorem Operation.refusedAlike_responsesOf {components : Components} {p : Location}
    (h : AmendedObject (fun m => ∃ d, responsesOf components p (.object [m]) = .error d)
      (fun name => Response.Amended components (p.member name)) v v') :
    RefusedAlike (responsesOf components p v) (responsesOf components p v') := by
  unfold responsesOf at h ⊢
  exact AmendedObject.refusedAlike h (fun m hm => .of_singleton hm) fun name v v' h =>
    .after fun _ => h.refusedAlike.bind

/-- **An operation that is amended is refused alike**: what is read before the amended place is the
same. -/
theorem Operation.Amended.refusedAlike (h : Amended components p v v') :
    RefusedAlike (Operation.ofJson components tags t p v)
      (Operation.ofJson components tags t p v') := by
  -- an `after` for each check that comes before that of the amended member
  cases h with
  | parameters h =>
    cases h with
    | mk hr h =>
      simp only [ofJson, Json.expectObject_bind, hr.checkKeys_eq,
        hr.others "description" (by decide), hr.others "summary" (by decide),
        hr.fetch_eq (show "tags" ≠ "parameters" by decide), hr.old, hr.new]
      refine .after fun _ => .after fun _ => .after fun _ => .after fun _ => .after fun _ => ?_
      exact (refusedAlike_parametersOf h).bind
  | requestBody h =>
    cases h with
    | mk hr h =>
      simp only [ofJson, Json.expectObject_bind, hr.checkKeys_eq,
        hr.others "description" (by decide), hr.others "summary" (by decide),
        hr.fetch_eq (show "tags" ≠ "requestBody" by decide), hr.others "parameters" (by decide),
        hr.old, hr.new]
      refine .after fun _ => .after fun _ => .after fun _ => .after fun _ => .after fun _ =>
        .after fun _ => .after fun _ => ?_
      exact h.refusedAlike.map.bind
  | responses h =>
    cases h with
    | mk hr h =>
      simp only [ofJson, Json.expectObject_bind, hr.checkKeys_eq,
        hr.others "description" (by decide), hr.others "summary" (by decide),
        hr.fetch_eq (show "tags" ≠ "responses" by decide), hr.others "parameters" (by decide),
        hr.others "requestBody" (by decide), hr.fetch_old_bind, hr.fetch_new_bind]
      refine .after fun _ => .after fun _ => .after fun _ => .after fun _ => .after fun _ =>
        .after fun _ => .after fun _ => .after fun _ => ?_
      exact (refusedAlike_responsesOf h).bind

/-! ## Paths and components -/

/-- **A path amended after a refused operation**, or within one, against the template it stands
under. -/
def PathEntry.Amended (components : Components) (tags : List String) (name : String)
    (v v' : Json) : Prop :=
  ∃ t, Template.parse (Location.member "/paths" name) name = .ok t ∧
    AmendedObject (fun m => ∃ d,
        operationsOf components tags t (Location.member "/paths" name) (.object [m]) = .error d)
      (fun verb => Operation.Amended components ((Location.member "/paths" name).member verb)) v v'

/-- A path that is amended is refused alike, against its template. -/
theorem PathEntry.Amended.refusedAlike {name : String} (h : Amended components tags name v v') :
    RefusedAlike (PathEntry.ofJson components tags name v)
      (PathEntry.ofJson components tags name v') := by
  obtain ⟨t, ht, h⟩ := h
  have hoperations : RefusedAlike (operationsOf components tags t (Location.member "/paths" name) v)
      (operationsOf components tags t (Location.member "/paths" name) v') := by
    unfold operationsOf at h ⊢
    exact AmendedObject.refusedAlike h (fun m hm => .of_singleton hm) fun verb v v' h =>
      .after fun _ => h.refusedAlike.bind
  simp only [PathEntry.ofJson, ht]
  exact hoperations.bind

/-- Paths are refused alike when they differ after a refused one, or within one. -/
theorem refusedAlike_pathsOf
    (h : AmendedObject (fun m => ∃ d, PathEntry.ofJson components tags m.1 m.2 = .error d)
      (PathEntry.Amended components tags) v v') :
    RefusedAlike (pathsOf components tags v) (pathsOf components tags v') :=
  AmendedObject.refusedAlike h (fun _ hm => .refl hm) fun _ _ _ h => h.refusedAlike

/-- The components amended after a refused schema, or within one. -/
def Json.AmendedComponents : Json → Json → Prop :=
  AmendedField "schemas" (AmendedObject
    (fun m => ∃ d, Schema.ofJson [] (Location.member "/components" m.1) m.2 = .error d)
    fun name => Schema.Amended [] (Location.member "/components" name))

/-- Components are refused alike when they differ after a refused one, or within one. -/
theorem refusedAlike_componentsOf (h : Json.AmendedComponents v v') :
    RefusedAlike (componentsOf (some v)) (componentsOf (some v')) := by
  cases h with
  | mk hr h =>
    simp only [componentsOf, Json.expectObject_bind, hr.checkKeys_eq, hr.fetch_old_bind,
      hr.fetch_new_bind]
    exact .after fun _ => AmendedObject.refusedAlike h (fun m hm => (RefusedAlike.refl hm).bind)
      fun name v v' h => h.refusedAlike.bind

/-- **A document amended after its first violation**: in its components, or, these and its tags
being read, in its paths. -/
inductive Contract.Amended : Json → Json → Prop
  | components {document document' : Json}
    (h : AmendedField "components" Json.AmendedComponents document document') :
    Amended document document'
  | paths {root root' : Members} {v v' : Json} {tags : List String} {components : Components}
    (htags : tagsOf (root.get? "tags") = .ok tags)
    (hcomponents : componentsOf (root.get? "components") = .ok components)
    (hr : root.Replaces "paths" v v' root')
    (h : AmendedObject (fun m => ∃ d, PathEntry.ofJson components tags m.1 m.2 = .error d)
      (PathEntry.Amended components tags) v v') : Amended (.object root) (.object root')

/-- **The first violation in document order wins.**  Documents that differ in what comes after a
refused member are refused for the same cause at the same place. -/
theorem Contract.first_violation_wins {document document' : Json}
    (h : Contract.Amended document document') :
    ∃ e, Contract.ofJson document = .error e ∧ Contract.ofJson document' = .error e := by
  show RefusedAlike _ _
  cases h with
  | components h =>
    cases h with
    | mk hr h =>
      simp only [ofJson, Json.expectObject_bind, hr.checkKeys_eq,
        hr.fetch_eq (show "openapi" ≠ "components" by decide),
        hr.fetch_eq (show "info" ≠ "components" by decide), hr.others "tags" (by decide), hr.old,
        hr.new]
      exact .after fun _ => .after fun _ => .after fun _ => .after fun _ => .after fun _ =>
        .after fun _ => (refusedAlike_componentsOf h).bind
  | paths htags hcomponents hr h =>
    simp only [ofJson, Json.expectObject_bind, hr.checkKeys_eq,
      hr.fetch_eq (show "openapi" ≠ "paths" by decide),
      hr.fetch_eq (show "info" ≠ "paths" by decide), hr.others "tags" (by decide),
      hr.others "components" (by decide), htags, hcomponents, Checked.ok_bind, hr.fetch_old_bind,
      hr.fetch_new_bind]
    exact .after fun _ => .after fun _ => .after fun _ => .after fun _ => .after fun _ =>
      (refusedAlike_pathsOf h).bind

/-! A body with a property of no type, and another property after it. -/

/-- An object with a property of no type, and another after it. -/
def untypedNode (later : Json) : Json :=
  .object [("type", .string "object"),
    ("properties", .object [("name", .object []), ("tag", later)])]

/-- The node of a text. -/
def textNode : Json := .object [("type", .string "string")]

/-- The later property may be any. -/
theorem amended_untypedNode {later later' : Json} :
    Schema.Amended components p (untypedNode later) (untypedNode later') := by
  have hname : Schema.ofJson components (p.member "name") (.object []) =
      .error ⟨p.member "name", .noType⟩ :=
    Schema.ofJson_of_error rfl
  have hnode :
      (Node.typed (.object [("name", .object []), ("tag", later)] [] (.allowed false))
        none).DeclaredBy
        [("type", .string "object"),
          ("properties", .object [("name", .object []), ("tag", later)])] :=
    .typed rfl (.object (.of_checkKeys rfl) rfl .absent .absent)
  have hplace := @Members.Replaces.of_append "properties"
    (.object [("name", .object []), ("tag", later)])
    (.object [("name", .object []), ("tag", later')]) [("type", .string "object")] [] (by decide)
  exact @Schema.Amended.laterProperties _ _ _ _ [] _ _ _ _ _ _ _ hnode hplace rfl ⟨_, hname⟩

/-- The document of a body that is amended. -/
theorem amended_bodyDocument (h : ∀ p, Schema.Amended [] p v v') :
    Contract.Amended (bodyDocument v) (bodyDocument v') := by
  have replaces (key : String) (v v' : Json) (before after : Members) (hkey : key ∉ before.keys) :
      Members.Replaces key v v' (before ++ (key, v) :: after) (before ++ (key, v') :: after) :=
    .of_append hkey
  have hentry (p : Location) :
      AmendedField "schema" (Schema.Amended [] p) (.object [("schema", v)])
        (.object [("schema", v')]) :=
    .mk (replaces _ _ _ [] [] (by decide)) (h p)
  have hcontent := replaces "content" (.object [("application/json", .object [("schema", v)])])
    (.object [("application/json", .object [("schema", v')])])
    [("description", .string "The pet"), ("required", .bool true)] [] (by decide)
  have hbody (p : Location) :
      RequestBody.Amended [] p (.object (petBodyMembers v)) (.object (petBodyMembers v')) :=
    .mk hcontent (@AmendedObject.within _ _ [] [] _ _ _ ⟨rfl, hentry _⟩)
  have hrequestBody := replaces "requestBody" (.object (petBodyMembers v))
    (.object (petBodyMembers v'))
    [("summary", .string "A new pet"), ("tags", .array [.string "pets"])]
    [("responses", .object [])] (by decide)
  have hpost (p : Location) :
      Operation.Amended [] p (.object (postPetMembers v)) (.object (postPetMembers v')) :=
    .requestBody (.mk hrequestBody (hbody _))
  have hpath :
      PathEntry.Amended [] ["pets"] "/pets" (.object [("post", .object (postPetMembers v))])
        (.object [("post", .object (postPetMembers v'))]) :=
    ⟨⟨"/pets", [.const "pets"]⟩, rfl, @AmendedObject.within _ _ [] [] _ _ _ (hpost _)⟩
  have hroot := replaces "paths"
    (.object [("/pets", .object [("post", .object (postPetMembers v))])])
    (.object [("/pets", .object [("post", .object (postPetMembers v'))])])
    [("openapi", .string "3.0.0"),
      ("info", .object [("version", .string "1"), ("title", .string "Pets")]),
      ("tags", .array [.object [("name", .string "pets"), ("description", .string "All pets")]])]
    [] (by decide)
  exact @Contract.Amended.paths _ _ _ _ ["pets"] [] rfl rfl hroot
    (@AmendedObject.within _ _ [] [] _ _ _ hpath)

/-- What the later property is does not matter. -/
theorem untypedDocuments_refused :
    Contract.Amended (bodyDocument (untypedNode textNode)) (bodyDocument (untypedNode .null)) ∧
      ∃ e, Contract.ofJson (bodyDocument (untypedNode textNode)) = .error e ∧
        Contract.ofJson (bodyDocument (untypedNode .null)) = .error e :=
  have hamended := amended_bodyDocument fun _ => amended_untypedNode
  ⟨hamended, Contract.first_violation_wins hamended⟩

end ApiContract
