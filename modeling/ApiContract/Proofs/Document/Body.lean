import ApiContract.Document.Body
import ApiContract.Proofs.Document.Check
import ApiContract.Proofs.Keyed
import ApiContract.Proofs.Schema.Canonical

/-!
# Proofs/Document/Body — what bodies and responses declare

Each part of a document has a relation `DeclaredBy` between its members and what it declares, and an
`eq_ok_iff` that says: the part is read, at any place, exactly when it declares something, and gives
what it declares.  Here are those of content maps, request bodies and responses.
-/

namespace ApiContract

variable {α κ : Type} {p : Location} {ms : Members} {v : Json} {components : Components}

/-! ## Places that may be absent -/

/-- A place that may be absent: what is declared then, and what its value declares otherwise. -/
inductive Json.Optionally (otherwise : α) (R : Json → α → Prop) : Option Json → α → Prop
  | absent : Optionally otherwise R none otherwise
  | given {v : Json} {a : α} (h : R v a) : Optionally otherwise R (some v) a

@[simp] theorem Json.optionally_none_iff {otherwise a : α} {R : Json → α → Prop} :
    Json.Optionally otherwise R none a ↔ a = otherwise :=
  ⟨fun h => by cases h; rfl, fun h => h ▸ .absent⟩

@[simp] theorem Json.optionally_some_iff {otherwise a : α} {R : Json → α → Prop} :
    Json.Optionally otherwise R (some v) a ↔ R v a :=
  ⟨fun h => by cases h; assumption, .given⟩

/-! ## Objects -/

/-- An object whose members declare something. -/
def Json.Record (D : Members → α → Prop) (v : Json) (a : α) : Prop := ∃ ms, v = .object ms ∧ D ms a

/-- Members that stand under the names of keys, as a map of what their values declare. -/
def Members.Map [Ord κ] (name : κ → String) (R : κ → Json → α → Prop) (ms : Members)
    (m : List (κ × α)) : Prop :=
  ∃ entries, List.Forall₂ (fun m e => m.1 = name e.1 ∧ R e.1 m.2 e.2) ms entries ∧
    m = Keyed.ofList entries

/-- A map is read member by member. -/
theorem Members.map_eq_ok_iff [Ord κ] (name : κ → String) {R : κ → Json → α → Prop}
    {f : String × Json → Checked (κ × α)}
    (hf : ∀ m e, f m = .ok e ↔ m.1 = name e.1 ∧ R e.1 m.2 e.2) {m : List (κ × α)} :
    (do let entries ← ms.mapM f; return Keyed.ofList entries) = Except.ok m ↔ ms.Map name R m := by
  simp only [Checked.bind_eq_ok, Checked.pure_eq_ok, Checked.mapM_eq_ok_iff_of hf, Members.Map,
    eq_comm (a := m)]

/-- A map of records: of each member, first the name is read as its key, then the value. -/
theorem Members.map_record_eq_ok_iff [Ord κ] {name : κ → String} {key : String → Checked κ}
    (hkey : ∀ s k, key s = .ok k ↔ s = name k) {read : String → Json → Checked α}
    {D : Members → α → Prop} (hread : ∀ s v a, read s v = .ok a ↔ Json.Record D v a)
    {m : List (κ × α)} :
    (do
      let entries ← ms.mapM fun m => do
        let k ← key m.1
        return (k, ← read m.1 m.2)
      return Keyed.ofList entries) = Except.ok m ↔ ms.Map name (fun _ => Json.Record D) m := by
  refine Members.map_eq_ok_iff name fun m e => ?_
  simp only [Checked.bind_eq_ok, Checked.pure_eq_ok, hkey, hread]
  constructor
  · rintro ⟨k, hk, a, ha, rfl⟩
    exact ⟨hk, ha⟩
  · rintro ⟨hk, ha⟩
    exact ⟨e.1, hk, e.2, ha, rfl⟩

/-- What is in a map is declared by a member under its name. -/
theorem Members.Map.exists_mem [Ord κ] {name : κ → String} {R : κ → Json → α → Prop}
    {m : List (κ × α)} (h : ms.Map name R m) {e : κ × α} (he : e ∈ m) :
    ∃ v, (name e.1, v) ∈ ms ∧ R e.1 v e.2 := by
  obtain ⟨entries, hentries, rfl⟩ := h
  obtain ⟨⟨key, v⟩, hm, rfl, hv⟩ := exists_mem_of_forall₂ hentries (Keyed.mem_of_mem_ofList he)
  exact ⟨v, hm, hv⟩

/-- The key of a name, where different keys have different names. -/
theorem find?_name_eq_some_iff {β : Type} {keys : List κ} {name : κ → β}
    (hn : Function.Injective name) {s : β} {is : κ → Bool} (his : ∀ k, is k = true ↔ s = name k)
    {key : κ} : keys.find? is = some key ↔ key ∈ keys ∧ s = name key := by
  constructor
  · intro h
    exact ⟨List.mem_of_find?_eq_some h, (his key).1 (List.find?_some h)⟩
  · rintro ⟨hk, hs⟩
    have hsome : (keys.find? is).isSome := List.find?_isSome.2 ⟨key, hk, (his key).2 hs⟩
    obtain ⟨k, hf⟩ := Option.isSome_iff_exists.1 hsome
    rw [hf, hn (hs.symm.trans ((his k).1 (List.find?_some hf)))]

/-- A name is looked up as a text. -/
theorem name_beq_iff {name : κ → String} {s : String} (k : κ) : (name k == s) = true ↔ s = name k :=
  beq_iff_eq.trans eq_comm

theorem Media.name_injective : Function.Injective Media.name := by
  intro a b
  cases a <;> cases b <;> decide

instance : Std.TransOrd Media := inferInstanceAs (Std.TransCmp (compareOn Media.ctorIdx))

instance : Std.LawfulEqOrd Media where
  eq_of_compare {a b} := by cases a <;> cases b <;> decide

/-! ## Bodies and responses -/

/-- The entry of a media type: its schema or its example, under the one key it has. -/
inductive Content.DeclaredBy (components : Components) : Media → Members → Content → Prop
  | schema {ms : Members} {v : Json} {s : Schema} (keys : ms.KeysAre ["schema"] [])
    (hv : ms.get? "schema" = some v) (hs : s.DeclaredBy components v) :
    DeclaredBy components .json ms (.schema s)
  | example {ms : Members} {v : Json} (keys : ms.KeysAre ["example"] [])
    (hv : ms.get? "example" = some v) :
    DeclaredBy components .text ms (.example v)

/-- A content map: under the names of allowed media types, what is declared for each. -/
def Members.ContentMap (allowed : List Media) (D : Media → Members → α → Prop) :
    Members → List (Media × α) → Prop :=
  Members.Map Media.name fun media => Json.Record fun ms a => media ∈ allowed ∧ D media ms a

/-- **A content map is read entry by entry**: each under the name of an allowed media type, what is
read there being of that type. -/
theorem contentEntries_eq_ok_iff {allowed : List Media}
    {entry : Location → String → Members → Checked (Media × α)} {D : Media → Members → α → Prop}
    (hd : ∀ p media, media ∈ allowed →
      ∀ ms e, entry p media.name ms = .ok e ↔ media = e.1 ∧ D e.1 ms e.2)
    {content : Members} {m : List (Media × α)} :
    contentEntries p allowed entry content = .ok m ↔ content.ContentMap allowed D m := by
  refine Members.map_eq_ok_iff Media.name ?_
  rintro ⟨name, v⟩ e
  simp only [Checked.bind_eq_ok, checkName_eq_ok_iff, Json.expectObject_eq_ok_iff, exists_const]
  constructor
  · rintro ⟨hname, ms, hv, h⟩
    obtain ⟨media, hmedia, rfl⟩ := List.mem_map.1 hname
    obtain ⟨rfl, ha⟩ := (hd _ media hmedia ms e).1 h
    exact ⟨rfl, ms, hv, hmedia, ha⟩
  · rintro ⟨rfl, ms, hv, hmedia, ha⟩
    exact ⟨List.mem_map_of_mem hmedia, ms, hv, (hd _ e.1 hmedia ms e).2 ⟨rfl, ha⟩⟩

/-- A schema under the key `schema`, the only one. -/
def Members.SchemaDeclared (components : Components) (ms : Members) (s : Schema) : Prop :=
  ms.KeysAre ["schema"] [] ∧ ∃ v, ms.get? "schema" = some v ∧ s.DeclaredBy components v

/-- The entry of a schema is read when it is declared. -/
theorem schemaEntry_eq_ok_iff {s : Schema} :
    schemaEntry components p ms = .ok s ↔ ms.SchemaDeclared components s := by
  simp only [schemaEntry, Members.SchemaDeclared, Checked.bind_eq_ok, Members.checkKeys_eq_ok_iff,
    Members.fetch_eq_ok_iff, exists_const]
  refine and_congr_right fun _ => exists_congr fun v => and_congr_right fun _ => ?_
  exact ⟨Schema.declaredBy_of_ofJson, fun h => Schema.ofJson_of_declaredBy h _⟩

/-- The entry of a request body is one of JSON. -/
theorem requestEntry_eq_ok_iff {name : String} {e : Media × Schema} :
    requestEntry components p name ms = .ok e ↔
      Media.json = e.1 ∧ ms.SchemaDeclared components e.2 := by
  simp only [requestEntry, Checked.bind_eq_ok, Checked.pure_eq_ok, schemaEntry_eq_ok_iff]
  constructor
  · rintro ⟨s, hs, rfl⟩
    exact ⟨rfl, hs⟩
  · rintro ⟨he, hs⟩
    exact ⟨e.2, hs, Prod.ext he rfl⟩

/-- The entry of a response is of the media type it is named for. -/
theorem responseEntry_eq_ok_iff {media : Media} {e : Media × Content} :
    responseEntry components p media.name ms = .ok e ↔
      media = e.1 ∧ e.2.DeclaredBy components e.1 ms := by
  obtain ⟨media', c⟩ := e
  cases media with
  | json =>
    change (do return (.json, .schema (← schemaEntry components p ms))) = Except.ok (media', c) ↔ _
    simp only [Checked.bind_eq_ok, Checked.pure_eq_ok, schemaEntry_eq_ok_iff, Prod.mk.injEq]
    constructor
    · rintro ⟨s, ⟨keys, v, hv, hs⟩, rfl, rfl⟩
      exact ⟨rfl, .schema keys hv hs⟩
    · rintro ⟨rfl, ⟨keys, hv, hs⟩ | _⟩
      exact ⟨_, ⟨keys, _, hv, hs⟩, rfl, rfl⟩
  | text =>
    change (do ms.checkKeys p ["example"] []; return (.text, .example (← ms.fetch p "example"))) =
      Except.ok (media', c) ↔ _
    simp only [Checked.bind_eq_ok, Checked.pure_eq_ok, Members.checkKeys_eq_ok_iff,
      Members.fetch_eq_ok_iff, exists_const, Prod.mk.injEq]
    constructor
    · rintro ⟨keys, v, hv, rfl, rfl⟩
      exact ⟨rfl, .example keys hv⟩
    · rintro ⟨rfl, _ | ⟨keys, hv⟩⟩
      exact ⟨keys, _, hv, rfl, rfl⟩

/-- The content of a request body. -/
def Members.RequestContent (components : Components) : Members → List (Media × Schema) → Prop :=
  Members.ContentMap [.json] fun _ ms s => ms.SchemaDeclared components s

/-- The content of a response. -/
def Members.ResponseContent (components : Components) : Members → List (Media × Content) → Prop :=
  Members.ContentMap [.json, .text] (Content.DeclaredBy components)

/-- The content of a request body is read when it is declared. -/
theorem requestEntries_eq_ok_iff {content : Members} {m : List (Media × Schema)} :
    contentEntries p [.json] (requestEntry components) content = .ok m ↔
      content.RequestContent components m :=
  contentEntries_eq_ok_iff fun _ media hmedia _ _ => by
    obtain rfl := List.mem_singleton.1 hmedia
    exact requestEntry_eq_ok_iff

/-- The content of a response is read when it is declared. -/
theorem responseEntries_eq_ok_iff {content : Members} {m : List (Media × Content)} :
    contentEntries p [.json, .text] (responseEntry components) content = .ok m ↔
      content.ResponseContent components m :=
  contentEntries_eq_ok_iff fun _ _ _ _ _ => responseEntry_eq_ok_iff

/-- What the members of a request body declare. -/
structure RequestBody.DeclaredBy (components : Components) (ms : Members) (b : RequestBody) :
    Prop where
  keys : ms.KeysAre ["content", "description", "required"] []
  description : (ms.get? "description").map Json.bare = some b.description
  required : ms.get? "required" = some (.bool b.required)
  content : ∃ v, ms.get? "content" = some v ∧ v.Record (Members.RequestContent components) b.content

/-- **A request body is read when it declares one.** -/
theorem RequestBody.ofJson_eq_ok_iff {b : RequestBody} :
    RequestBody.ofJson components p v = .ok b ↔ v.Record (RequestBody.DeclaredBy components) b := by
  simp only [RequestBody.ofJson, Checked.bind_eq_ok, Checked.pure_eq_ok,
    Json.expectObject_eq_ok_iff, Members.checkKeys_eq_ok_iff, Members.fetch_eq_ok_iff,
    Json.expectFlag_eq_ok_iff, requestEntries_eq_ok_iff, exists_const]
  refine exists_congr fun ms => and_congr_right fun _ => ?_
  constructor
  · rintro ⟨keys, _, hr, required, rfl, v, hc, content, hv, m, hm, d, hd, rfl⟩
    exact ⟨keys, by rw [hd, Option.map_some], hr, v, hc, content, hv, hm⟩
  · rintro ⟨keys, hd, hr, v, hc, content, hv, hm⟩
    obtain ⟨d, hd, hb⟩ := Option.map_eq_some_iff.1 hd
    exact ⟨keys, _, hr, _, rfl, v, hc, content, hv, _, hm, d, hd, by rw [hb]⟩

/-- What the members of a response declare. -/
structure Response.DeclaredBy (components : Components) (ms : Members) (r : Response) : Prop where
  keys : ms.KeysAre ["description"] ["content"]
  description : (ms.get? "description").map Json.bare = some r.description
  content : Json.Optionally [] (Json.Record (Members.ResponseContent components))
    (ms.get? "content") r.content

/-- **A response is read when it declares one**, its content being left out or not. -/
theorem Response.ofJson_eq_ok_iff {r : Response} :
    Response.ofJson components p v = .ok r ↔ v.Record (Response.DeclaredBy components) r := by
  simp only [Response.ofJson, Checked.bind_eq_ok, Json.expectObject_eq_ok_iff,
    Members.checkKeys_eq_ok_iff, exists_const]
  refine exists_congr fun ms => and_congr_right fun _ => ?_
  constructor
  · rintro ⟨keys, h⟩
    split at h
    next hc =>
      simp only [Checked.bind_eq_ok, Checked.pure_eq_ok, Members.fetch_eq_ok_iff] at h
      obtain ⟨_, rfl, d, hd, rfl⟩ := h
      exact ⟨keys, by rw [hd, Option.map_some], hc ▸ .absent⟩
    next v hc =>
      simp only [Checked.bind_eq_ok, Checked.pure_eq_ok, Members.fetch_eq_ok_iff,
        Json.expectObject_eq_ok_iff, responseEntries_eq_ok_iff] at h
      obtain ⟨content, hv, m, hm, d, hd, rfl⟩ := h
      exact ⟨keys, by rw [hd, Option.map_some], hc ▸ .given ⟨content, hv, hm⟩⟩
  · rintro ⟨keys, hd, hc⟩
    obtain ⟨d, hd, hr⟩ := Option.map_eq_some_iff.1 hd
    refine ⟨keys, ?_⟩
    cases hv : ms.get? "content" with
    | none =>
      rw [hv, Json.optionally_none_iff] at hc
      simp only [Checked.bind_eq_ok, Checked.pure_eq_ok, Members.fetch_eq_ok_iff]
      exact ⟨_, rfl, d, hd, by rw [hr, ← hc]⟩
    | some v =>
      rw [hv, Json.optionally_some_iff] at hc
      obtain ⟨content, hv, hm⟩ := hc
      simp only [Checked.bind_eq_ok, Checked.pure_eq_ok, Members.fetch_eq_ok_iff,
        Json.expectObject_eq_ok_iff, responseEntries_eq_ok_iff]
      exact ⟨content, hv, _, hm, d, hd, by rw [hr]⟩

end ApiContract
