import ApiContract.Proofs.Document.Reader

/-!
# Proofs/Document/Dialect — the documents that are accepted

`Json.InDialect` says of a document alone whether it belongs to the dialect: which keys each part
has, and what each value is, names of tags, variables of paths and components being compared across
the document.  The main statement is `Contract.exists_ofJson_iff`: these are the documents that have
a contract.  Each part is shown to declare something exactly when it has its form; the parts are
then put together from the inside out.
-/

namespace ApiContract

variable {α β κ : Type} {ms : Members} {v : Json} {components : Components} {tags : List String}

/-! ## Forms of values -/

namespace Json

/-- An object whose members, as a whole, are of a form. -/
def IsRecord (P : Members → Prop) (v : Json) : Prop := ∃ ms, v = .object ms ∧ P ms

/-- An object each of whose members is of a form. -/
def IsMap (P : String → Json → Prop) : Json → Prop := IsRecord fun ms => ∀ m ∈ ms, P m.1 m.2

/-- An array each of whose elements is of a form. -/
def IsArray (P : Json → Prop) (v : Json) : Prop := ∃ items, v = .array items ∧ ∀ w ∈ items, P w

/-- A text or null. -/
def IsText (v : Json) : Prop := v = .null ∨ ∃ s, v = .string s

/-- A schema node that has a canonical form. -/
def IsSchema (components : Components) (v : Json) : Prop := ∃ s : Schema, s.DeclaredBy components v

end Json

/-! ## The parts of a document -/

namespace Members

/-- The one key `schema` and a schema node under it. -/
structure IsSchemaEntry (components : Components) (ms : Members) : Prop where
  keys : ms.KeysAre ["schema"] []
  schema : ∀ v, ms.get? "schema" = some v → v.IsSchema components

/-- A parameter: in the path required and a string or an integer, in the query also a boolean. -/
structure IsParameter (ms : Members) : Prop where
  keys : ms.KeysAre ["name", "in", "description", "required", "schema"] []
  place : ms.get? "in" = some (.string "path") ∧ ms.get? "required" = some (.bool true) ∧
      (∃ type ∈ ["string", "integer"], ms.get? "schema" = some (.object [("type", .string type)])) ∨
    ms.get? "in" = some (.string "query") ∧ (∃ flag, ms.get? "required" = some (.bool flag)) ∧
      ∃ type ∈ ["string", "integer", "boolean"],
        ms.get? "schema" = some (.object [("type", .string type)])

/-- A request body: JSON alone. -/
structure IsRequestBody (components : Components) (ms : Members) : Prop where
  keys : ms.KeysAre ["content", "description", "required"] []
  required : ∃ flag, ms.get? "required" = some (.bool flag)
  content : ∀ v, ms.get? "content" = some v → v.IsMap fun name entry =>
    name = "application/json" ∧ entry.IsRecord (IsSchemaEntry components)

/-- A response: JSON of a schema, or text with an example. -/
structure IsResponse (components : Components) (ms : Members) : Prop where
  keys : ms.KeysAre ["description"] ["content"]
  content : ∀ v, ms.get? "content" = some v → v.IsMap fun name entry =>
    name = "application/json" ∧ entry.IsRecord (IsSchemaEntry components) ∨
    name = "text/plain" ∧ entry.IsRecord fun ms => ms.KeysAre ["example"] []

/-- A name that the members of an operation declare for the path. -/
def DeclaresForPath (ms : Members) (name : String) : Prop :=
  ∃ items, ms.get? "parameters" = some (.array items) ∧ ∃ w ∈ items, w.IsRecord fun q =>
    q.get? "in" = some (.string "path") ∧ (q.get? "name").map Json.bare = some name

/-- An operation under a template, in a document that declares some tags and components. -/
structure IsOperation (components : Components) (declared : String → Prop) (t : Template)
    (ms : Members) : Prop where
  keys : ms.KeysAre ["responses", "summary", "tags"] ["description", "requestBody", "parameters"]
  texts : ∀ key ∈ ["summary", "description"], ∀ v, ms.get? key = some v → v.IsText
  tag : ∃ v, ms.get? "tags" = some (.array [v]) ∧ declared v.bare
  parameters : ∀ v, ms.get? "parameters" = some v → v.IsArray fun w => w.IsRecord IsParameter
  captures : ∀ name, name ∈ t.variableNames ↔ ms.DeclaresForPath name
  requestBody : ∀ v, ms.get? "requestBody" = some v → v.IsRecord (IsRequestBody components)
  responses : ∀ v, ms.get? "responses" = some v → v.IsMap fun name response =>
    name ∈ ["200", "201", "301", "302", "404", "409", "422", "default"] ∧
    response.IsRecord (IsResponse components)

/-- The name of a tag, among those of a document. -/
def DeclaresTag (root : Members) (name : String) : Prop :=
  ∃ items, root.get? "tags" = some (.array items) ∧ ∃ w ∈ items, w.IsRecord fun tag =>
    (tag.get? "name").map Json.bare = some name

/-- **A whole document.**  Its components are those that its operations refer to. -/
structure IsDocument (root : Members) : Prop where
  keys : root.KeysAre ["openapi", "info", "paths"] ["components", "tags"]
  version : root.get? "openapi" = some (.string "3.0.0")
  info : ∀ v, root.get? "info" = some v →
    v.IsRecord (·.KeysAre ["version", "title"] ["description"])
  tags : ∀ v, root.get? "tags" = some v → v.IsArray fun w =>
    w.IsRecord (·.KeysAre ["name", "description"] [])
  paths : ∃ components, Json.Optionally [] (Json.Record Members.DeclareComponents)
      (root.get? "components") components ∧
    ∀ v, root.get? "paths" = some v → v.IsMap fun name item => ∃ t : Template, t.DeclaredBy name ∧
      item.IsMap fun method operation => method ∈ ["get", "post", "patch", "put", "delete"] ∧
        operation.IsRecord (IsOperation components root.DeclaresTag t)

end Members

/-- **The dialect**: the documents that are of the form of one. -/
def Json.InDialect (document : Json) : Prop := document.IsRecord Members.IsDocument

/-! ## Places and values that declare something -/

/-- A place that may be absent declares something when the value there, if any, does. -/
theorem exists_optionally_iff {otherwise : α} {R : Json → α → Prop} {place : Option Json} :
    (∃ a, Json.Optionally otherwise R place a) ↔ ∀ v, place = some v → ∃ a, R v a := by
  cases place with
  | none => simp
  | some v => simp

/-- An array declares a list when each of its elements declares something. -/
theorem exists_items_iff {R : Json → α → Prop} :
    (∃ as, Json.Items R v as) ↔ v.IsArray fun w => ∃ a, R w a := by
  unfold Json.Items Json.IsArray
  rw [exists_comm]
  simp only [exists_and_left, exists_forall₂_iff]

/-- A value declares something as an object when it is one whose members do. -/
theorem exists_record_iff {D : Members → α → Prop} :
    (∃ a, Json.Record D v a) ↔ v.IsRecord fun ms => ∃ a, D ms a := by
  unfold Json.Record Json.IsRecord
  rw [exists_comm]
  simp only [exists_and_left]

/-- Members declare a map when each has a name of a key and declares something under it. -/
theorem exists_map_iff [Ord κ] {name : κ → String} {R : κ → Json → α → Prop} :
    (∃ m, ms.Map name R m) ↔ ∀ m ∈ ms, ∃ key, m.1 = name key ∧ ∃ a, R key m.2 a := by
  unfold Members.Map
  rw [exists_comm]
  simp only [exists_and_left, exists_eq, and_true, exists_forall₂_iff, Prod.exists]

/-- A key that is there has a value, and only one. -/
theorem Members.exists_get?_iff {key : String} (hk : key ∈ ms.keys) {P : Json → Prop} :
    (∃ v, ms.get? key = some v ∧ P v) ↔ ∀ v, ms.get? key = some v → P v := by
  obtain ⟨v, hv⟩ := mem_keys_iff.1 hk
  rw [hv]
  simp

/-- A name that keys have is one of the names of all of them. -/
theorem exists_name_iff {name : κ → String} {all : List κ} (hall : ∀ k, k ∈ all) {s : String} :
    (∃ k, s = name k) ↔ s ∈ all.map name := by
  simp only [List.mem_map, hall, true_and, eq_comm]

/-! ## Bodies and responses -/

/-- An entry of the form declares a schema. -/
theorem Members.exists_schemaDeclared_iff :
    (∃ s, ms.SchemaDeclared components s) ↔ ms.IsSchemaEntry components := by
  constructor
  · rintro ⟨s, keys, v, hv, hs⟩
    exact ⟨keys, (exists_get?_iff (keys.complete "schema" (by decide))).1 ⟨v, hv, s, hs⟩⟩
  · rintro ⟨keys, h⟩
    obtain ⟨v, hv, s, hs⟩ := (exists_get?_iff (keys.complete "schema" (by decide))).2 h
    exact ⟨s, keys, v, hv, hs⟩

/-- JSON content declares a schema. -/
theorem Content.exists_declaredBy_json_iff :
    (∃ c, Content.DeclaredBy components .json ms c) ↔ ms.IsSchemaEntry components := by
  rw [← Members.exists_schemaDeclared_iff]
  constructor
  · rintro ⟨_, ⟨keys, hv, hs⟩ | _⟩
    exact ⟨_, keys, _, hv, hs⟩
  · rintro ⟨s, keys, v, hv, hs⟩
    exact ⟨_, .schema keys hv hs⟩

/-- Text declares an example, whatever it is. -/
theorem Content.exists_declaredBy_text_iff :
    (∃ c, Content.DeclaredBy components .text ms c) ↔ ms.KeysAre ["example"] [] := by
  constructor
  · rintro ⟨_, _ | ⟨keys, -⟩⟩
    exact keys
  · intro keys
    obtain ⟨v, hv⟩ := Members.mem_keys_iff.1 (keys.complete "example" (by decide))
    exact ⟨_, .example keys hv⟩

/-- Members declare a content when each is of an allowed media type and declares something under it.
-/
theorem Members.exists_contentMap_iff {allowed : List Media} {D : Media → Members → α → Prop} :
    (∃ m, ms.ContentMap allowed D m) ↔ ∀ m ∈ ms, ∃ media ∈ allowed,
      m.1 = media.name ∧ m.2.IsRecord fun ms => ∃ a, D media ms a := by
  unfold ContentMap
  rw [exists_map_iff]
  refine forall₂_congr fun m _ => exists_congr fun media => ?_
  rw [exists_record_iff]
  unfold Json.IsRecord
  simp only [exists_and_left]
  constructor
  · rintro ⟨hn, ms, hms, hm, ha⟩
    exact ⟨hm, hn, ms, hms, ha⟩
  · rintro ⟨hm, hn, ms, hms, ha⟩
    exact ⟨hn, ms, hms, hm, ha⟩

/-- The content of a request is of JSON alone. -/
theorem Members.exists_requestContent_iff :
    (∃ m, ms.RequestContent components m) ↔
      ∀ m ∈ ms, m.1 = "application/json" ∧ m.2.IsRecord (IsSchemaEntry components) := by
  unfold RequestContent
  rw [exists_contentMap_iff]
  simp only [List.mem_singleton, exists_eq_left, exists_schemaDeclared_iff]
  rfl

/-- The content of a response is of JSON or of text. -/
theorem Members.exists_responseContent_iff :
    (∃ m, ms.ResponseContent components m) ↔
      ∀ m ∈ ms, m.1 = "application/json" ∧ m.2.IsRecord (IsSchemaEntry components) ∨
        m.1 = "text/plain" ∧ m.2.IsRecord fun ms => ms.KeysAre ["example"] [] := by
  unfold ResponseContent
  rw [exists_contentMap_iff]
  simp only [List.mem_cons, List.not_mem_nil, or_false, exists_eq_or_imp, exists_eq_left,
    Content.exists_declaredBy_json_iff, Content.exists_declaredBy_text_iff]
  rfl

/-- A request body of the form declares one. -/
theorem RequestBody.exists_declaredBy_iff :
    (∃ b : RequestBody, b.DeclaredBy components ms) ↔ ms.IsRequestBody components := by
  have key (v : Json) :
      (∃ m, v.Record (Members.RequestContent components) m) ↔ v.IsMap fun name entry =>
        name = "application/json" ∧ entry.IsRecord (Members.IsSchemaEntry components) := by
    rw [exists_record_iff]
    simp only [Members.exists_requestContent_iff]
    rfl
  constructor
  · rintro ⟨b, keys, -, hr, v, hv, h⟩
    refine ⟨keys, ⟨_, hr⟩, (Members.exists_get?_iff (keys.complete "content" (by decide))).1 ?_⟩
    exact ⟨v, hv, (key v).1 ⟨_, h⟩⟩
  · rintro ⟨keys, ⟨required, hr⟩, h⟩
    obtain ⟨d, hd⟩ := Members.mem_keys_iff.1 (keys.complete "description" (by decide))
    obtain ⟨v, hv, h⟩ := (Members.exists_get?_iff (keys.complete "content" (by decide))).2 h
    obtain ⟨content, h⟩ := (key v).2 h
    exact ⟨⟨d.bare, required, content⟩, keys, by rw [hd, Option.map_some], hr, v, hv, h⟩

/-- A response of the form declares one. -/
theorem Response.exists_declaredBy_iff :
    (∃ r : Response, r.DeclaredBy components ms) ↔ ms.IsResponse components := by
  have key (v : Json) :
      (∃ m, v.Record (Members.ResponseContent components) m) ↔ v.IsMap fun name entry =>
        name = "application/json" ∧ entry.IsRecord (Members.IsSchemaEntry components) ∨
        name = "text/plain" ∧ entry.IsRecord fun ms => ms.KeysAre ["example"] [] := by
    rw [exists_record_iff]
    simp only [Members.exists_responseContent_iff]
    rfl
  constructor
  · rintro ⟨r, keys, -, hc⟩
    exact ⟨keys, fun v hv => (key v).1 (exists_optionally_iff.1 ⟨_, hc⟩ v hv)⟩
  · rintro ⟨keys, h⟩
    obtain ⟨d, hd⟩ := Members.mem_keys_iff.1 (keys.complete "description" (by decide))
    obtain ⟨content, hc⟩ := exists_optionally_iff.2 fun v hv => (key v).2 (h v hv)
    exact ⟨⟨d.bare, content⟩, keys, by rw [hd, Option.map_some], hc⟩

/-! ## Parameters and operations -/

/-- A parameter of the form declares one. -/
theorem Parameter.exists_declaredBy_iff : (∃ q : Parameter, q.DeclaredBy ms) ↔ ms.IsParameter := by
  constructor
  · rintro ⟨⟨_, place, _, required, type⟩, keys, -, -, hp, hr, hs, path⟩
    refine ⟨keys, ?_⟩
    cases place with
    | path =>
      obtain ⟨rfl, ht⟩ := path rfl
      refine .inl ⟨hp, hr, type.name, ?_, hs⟩
      cases type with
      | string => decide
      | integer => decide
      | boolean => exact absurd rfl ht
    | query =>
      refine .inr ⟨hp, ⟨required, hr⟩, type.name, ?_, hs⟩
      cases type <;> decide
  · rintro ⟨keys, h⟩
    obtain ⟨n, hn⟩ := Members.mem_keys_iff.1 (keys.complete "name" (by decide))
    obtain ⟨d, hd⟩ := Members.mem_keys_iff.1 (keys.complete "description" (by decide))
    -- the texts can be anything, so place, flag and type make the parameter
    have key (place : ParameterPlace) (type : ParameterType) {required : Bool}
        (hp : ms.get? "in" = some (.string place.name))
        (hr : ms.get? "required" = some (.bool required))
        (hs : ms.get? "schema" = some type.document)
        (path : place = .path → required = true ∧ type ≠ .boolean) :
        ∃ q : Parameter, q.DeclaredBy ms :=
      ⟨⟨n.bare, place, d.bare, required, type⟩, keys, by rw [hn, Option.map_some],
        by rw [hd, Option.map_some], hp, hr, hs, path⟩
    rcases h with ⟨hp, hr, type, ht, hs⟩ | ⟨hp, ⟨required, hr⟩, type, ht, hs⟩
    · simp only [List.mem_cons, List.not_mem_nil, or_false] at ht
      rcases ht with rfl | rfl
      · exact key .path .string hp hr hs (by decide)
      · exact key .path .integer hp hr hs (by decide)
    · simp only [List.mem_cons, List.not_mem_nil, or_false] at ht
      rcases ht with rfl | rfl | rfl
      · exact key .query .string hp hr hs nofun
      · exact key .query .integer hp hr hs nofun
      · exact key .query .boolean hp hr hs nofun

/-- The names declared for the path are those of the parameters in the path. -/
theorem declaresForPath_iff {qs : List Parameter} {name : String}
    (h : Json.Optionally [] (Json.Items (Json.Record Parameter.DeclaredBy))
      (ms.get? "parameters") qs) :
    (∃ q ∈ qs, q.place = .path ∧ q.name = name) ↔ ms.DeclaresForPath name := by
  unfold Members.DeclaresForPath
  cases hv : ms.get? "parameters" with
  | none =>
    rw [hv, Json.optionally_none_iff] at h
    simp [h]
  | some v =>
    rw [hv, Json.optionally_some_iff] at h
    obtain ⟨items, rfl, hqs⟩ := h
    simp only [Option.some.injEq, Json.array.injEq, exists_eq_left']
    refine (exists_mem_iff_of_forall₂ hqs ?_).symm
    rintro _ q ⟨ms, rfl, hq⟩
    simp only [Json.IsRecord, Json.object.injEq, exists_eq_left', hq.place, hq.name,
      Option.some.injEq, Json.string.injEq]
    refine and_congr_left fun _ => ?_
    cases q.place <;> decide

/-- A text that may be left out may also be null. -/
theorem exists_isOptionalText_iff {place : Option Json} :
    (∃ text, Json.IsOptionalText place text) ↔ ∀ v, place = some v → v.IsText := by
  unfold Json.IsOptionalText Json.IsText
  cases place with
  | none => simp
  | some v => cases v <;> simp

/-- The responses of the form, each under the name of a status. -/
theorem exists_responses_iff :
    (∃ m, v.Record (Members.Responses components) m) ↔ v.IsMap fun name response =>
      name ∈ ["200", "201", "301", "302", "404", "409", "422", "default"] ∧
      response.IsRecord (Members.IsResponse components) := by
  have hall (k : Status) : k ∈ Status.all := by cases k <;> decide
  rw [exists_record_iff]
  unfold Members.Responses
  simp only [exists_map_iff, exists_record_iff, Response.exists_declaredBy_iff, exists_and_right,
    exists_name_iff hall]
  rfl

/-- An operation of the form declares one. -/
theorem Operation.exists_declaredBy_iff {t : Template} :
    (∃ op : Operation, op.DeclaredBy components tags t ms) ↔
      ms.IsOperation components (· ∈ tags) t := by
  have hparameters (v : Json) :
      (∃ qs, v.Items (Json.Record Parameter.DeclaredBy) qs) ↔
        v.IsArray fun w => w.IsRecord Members.IsParameter := by
    simp only [exists_items_iff, exists_record_iff, Parameter.exists_declaredBy_iff]
  have hbody (v : Json) :
      (∃ b, ∃ body, v.Record (RequestBody.DeclaredBy components) body ∧ some body = b) ↔
        v.IsRecord (Members.IsRequestBody components) := by
    rw [exists_comm]
    simp only [exists_and_left, exists_eq', and_true, exists_record_iff,
      RequestBody.exists_declaredBy_iff]
  constructor
  · rintro ⟨op, keys, hd, ⟨text, hs, -⟩, ⟨w, ht, hw, hm⟩, hq, captures, hb, v, hv, hr⟩
    refine ⟨keys, ?_, ⟨w, ht, hw ▸ hm⟩, ?_, ?_, ?_, ?_⟩
    · simp only [List.forall_mem_cons, ← exists_isOptionalText_iff]
      exact ⟨⟨_, hs⟩, ⟨_, hd⟩, nofun⟩
    · exact fun v hv => (hparameters v).1 (exists_optionally_iff.1 ⟨_, hq⟩ v hv)
    · exact fun name => (captures name).trans (declaresForPath_iff hq)
    · exact fun v hv => (hbody v).1 (exists_optionally_iff.1 ⟨_, hb⟩ v hv)
    · refine (Members.exists_get?_iff (keys.complete "responses" (by decide))).1 ?_
      exact ⟨v, hv, exists_responses_iff.1 ⟨_, hr⟩⟩
  · rintro ⟨keys, texts, ⟨w, ht, hm⟩, hq, captures, hb, hr⟩
    obtain ⟨text, hs⟩ := exists_isOptionalText_iff.2 (texts "summary" (by decide))
    obtain ⟨description, hd⟩ := exists_isOptionalText_iff.2 (texts "description" (by decide))
    obtain ⟨qs, hqs⟩ := exists_optionally_iff.2 fun v hv => (hparameters v).2 (hq v hv)
    obtain ⟨body, hbody⟩ := exists_optionally_iff.2 fun v hv => (hbody v).2 (hb v hv)
    obtain ⟨v, hv, hr⟩ := (Members.exists_get?_iff (keys.complete "responses" (by decide))).2 hr
    obtain ⟨responses, hr⟩ := exists_responses_iff.2 hr
    refine ⟨⟨text.getD "", description, w.bare, qs, body, responses⟩, keys, hd, ⟨text, hs, rfl⟩,
      ⟨w, ht, rfl, hm⟩, hqs, fun name => ?_, hbody, v, hv, hr⟩
    exact (captures name).trans (declaresForPath_iff hqs).symm

/-! ## The document -/

/-- The operations of the form, each under the name of a verb. -/
theorem exists_operations_iff {t : Template} :
    (∃ m, v.Record (Members.Operations components tags t) m) ↔ v.IsMap fun method operation =>
      method ∈ ["get", "post", "patch", "put", "delete"] ∧
      operation.IsRecord (Members.IsOperation components (· ∈ tags) t) := by
  have hall (k : Method) : k ∈ Method.all := by cases k <;> decide
  rw [exists_record_iff]
  unfold Members.Operations
  simp only [exists_map_iff, exists_record_iff, Operation.exists_declaredBy_iff, exists_and_right,
    exists_name_iff hall]
  rfl

/-- The paths of the form, each under a text that is a template. -/
theorem exists_paths_iff :
    (∃ paths, v.Record (Members.Paths components tags) paths) ↔ v.IsMap fun name item =>
      ∃ t : Template, t.DeclaredBy name ∧ item.IsMap fun method operation =>
        method ∈ ["get", "post", "patch", "put", "delete"] ∧
        operation.IsRecord (Members.IsOperation components (· ∈ tags) t) := by
  have key (m : String × Json) :
      (∃ e, PathEntry.DeclaredBy components tags m e) ↔ ∃ t : Template, t.DeclaredBy m.1 ∧
        ∃ ops, m.2.Record (Members.Operations components tags t) ops := by
    constructor
    · rintro ⟨e, ht, ho⟩
      exact ⟨e.template, ht, e.operations, ho⟩
    · rintro ⟨t, ht, ops, ho⟩
      exact ⟨⟨t, ops⟩, ht, ho⟩
  rw [exists_record_iff]
  unfold Members.Paths
  simp only [exists_comm (α := List PathEntry), exists_and_left, exists_eq, and_true,
    exists_forall₂_iff, key, exists_operations_iff]
  rfl

/-- The tags of the form. -/
theorem exists_tags_iff :
    (∃ tags, v.Items (Json.Record Members.DeclaresName) tags) ↔
      v.IsArray fun w => w.IsRecord (·.KeysAre ["name", "description"] []) := by
  have key (ms : Members) :
      (∃ name, ms.DeclaresName name) ↔ ms.KeysAre ["name", "description"] [] := by
    constructor
    · rintro ⟨_, keys, -⟩
      exact keys
    · intro keys
      obtain ⟨n, hn⟩ := Members.mem_keys_iff.1 (keys.complete "name" (by decide))
      exact ⟨n.bare, keys, by rw [hn, Option.map_some]⟩
  simp only [exists_items_iff, exists_record_iff, key]

/-- The tags of a document are those whose names its tag objects declare. -/
theorem declaresTag_eq {root : Members}
    (h : Json.Optionally [] (Json.Items (Json.Record Members.DeclaresName)) (root.get? "tags")
      tags) :
    root.DeclaresTag = (· ∈ tags) := by
  ext name
  unfold Members.DeclaresTag
  cases hv : root.get? "tags" with
  | none =>
    rw [hv, Json.optionally_none_iff] at h
    simp [h]
  | some v =>
    rw [hv, Json.optionally_some_iff] at h
    obtain ⟨items, rfl, htags⟩ := h
    simp only [Option.some.injEq, Json.array.injEq, exists_eq_left']
    rw [exists_mem_iff_of_forall₂ htags (Q := (· = name)), exists_eq_right]
    rintro _ tag ⟨ms, rfl, ht⟩
    simp only [Json.IsRecord, Json.object.injEq, exists_eq_left', ht.name, Option.some.injEq]

/-- **The documents that are accepted are those of the dialect.** -/
theorem Contract.exists_ofJson_iff {document : Json} :
    (∃ c, Contract.ofJson document = .ok c) ↔ document.InDialect := by
  simp only [Contract.ofJson_eq_ok_iff, exists_record_iff]
  unfold Json.InDialect
  refine exists_congr fun root => and_congr_right fun _ => ?_
  constructor
  · rintro ⟨c, keys, hv, ⟨info, hi, hinfo⟩, tags, components, v, ht, hc, hp, h⟩
    refine ⟨keys, hv, ?_, ?_, components, hc, ?_⟩
    · refine (Members.exists_get?_iff (keys.complete "info" (by decide))).1 ?_
      exact ⟨_, hi, info, rfl, hinfo⟩
    · exact fun v hv => exists_tags_iff.1 (exists_optionally_iff.1 ⟨_, ht⟩ v hv)
    · refine (Members.exists_get?_iff (keys.complete "paths" (by decide))).1 ⟨v, hp, ?_⟩
      rw [declaresTag_eq ht]
      exact exists_paths_iff.1 ⟨_, h⟩
  · rintro ⟨keys, hv, hinfo, htags, components, hc, hpaths⟩
    obtain ⟨_, hi, info, rfl, hinfo⟩ :=
      (Members.exists_get?_iff (keys.complete "info" (by decide))).2 hinfo
    obtain ⟨tags, ht⟩ := exists_optionally_iff.2 fun v hv => exists_tags_iff.2 (htags v hv)
    obtain ⟨v, hp, h⟩ := (Members.exists_get?_iff (keys.complete "paths" (by decide))).2 hpaths
    rw [declaresTag_eq ht] at h
    obtain ⟨paths, h⟩ := exists_paths_iff.2 h
    exact ⟨⟨paths⟩, keys, hv, ⟨info, hi, hinfo⟩, tags, components, v, ht, hc, hp, h⟩

end ApiContract
