import ApiContract.Document.Operation
import ApiContract.Proofs.Document.Body

/-!
# Proofs/Document/Operation — what parameters and operations declare

An operation declares its parameters, its bodies and a tag of the document.  Its parameters in the
path are the variables of the template it stands under; that is the field `captures` of
`Operation.DeclaredBy`.
-/

namespace ApiContract

variable {p : Location} {ms : Members} {v : Json} {components : Components}

/-! ## Parameters -/

theorem Json.same_string_iff {s : String} : (Json.string s).same v = true ↔ v = .string s := by
  cases v <;> simp [same]
  exact eq_comm

/-- An object of one member is the same as itself alone, its value being taken as the same. -/
theorem Json.same_single_iff {key : String} {w : Json} :
    (Json.object [(key, w)]).same v = true ↔ ∃ u, v = .object [(key, u)] ∧ w.same u = true := by
  constructor
  · intro h
    cases v with
    | object ms =>
      rw [same, Bool.and_eq_true, sameMembers, Bool.and_eq_true] at h
      obtain ⟨hl, hm, -⟩ := h
      obtain ⟨⟨k, u⟩, rfl⟩ := List.length_eq_one_iff.1 (beq_iff_eq.1 hl).symm
      split at hm
      next y hy =>
        rw [Members.get?, List.lookup_cons] at hy
        split at hy
        next hk =>
          obtain rfl := eq_of_beq hk
          cases hy
          exact ⟨_, rfl, hm⟩
        next => cases hy
      next => cases hm
    | _ => simp [same] at h
  · rintro ⟨u, rfl, h⟩
    rw [same, sameMembers, sameMembers]
    simp [Members.get?, h]

/-- The document of a type is its only one. -/
theorem ParameterType.document_same_iff {t : ParameterType} :
    t.document.same v = true ↔ v = t.document := by
  rw [document, Json.same_single_iff]
  simp only [Json.same_string_iff]
  constructor
  · rintro ⟨_, rfl, rfl⟩
    rfl
  · rintro rfl
    exact ⟨_, rfl, rfl⟩

/-- Different types have different documents. -/
theorem ParameterType.document_injective : Function.Injective ParameterType.document := by
  intro a b
  cases a <;> cases b <;> decide

/-- The document of a type names that type. -/
theorem ParameterType.named_document (t : ParameterType) : named p t.document = .ok t := by
  cases t <;> rfl

/-- **The type of a parameter is read off its document**, one of those allowed. -/
theorem ParameterType.ofJson_eq_ok_iff {allowed : List ParameterType} {t : ParameterType} :
    ParameterType.ofJson p allowed v = .ok t ↔ t ∈ allowed ∧ v = t.document := by
  simp only [ofJson, Checked.bind_eq_ok, Json.checkOneOf_eq_ok_iff, List.mem_map, exists_const]
  constructor
  · rintro ⟨⟨_, ⟨t', hmem, rfl⟩, hv⟩, h⟩
    obtain rfl := document_same_iff.1 hv
    obtain rfl := Except.ok.inj ((named_document t').symm.trans h)
    exact ⟨hmem, rfl⟩
  · rintro ⟨hmem, rfl⟩
    exact ⟨⟨_, ⟨t, hmem, rfl⟩, document_same_iff.2 rfl⟩, named_document t⟩

/-- What the members of a parameter declare.  One in the path is required, and no flag. -/
structure Parameter.DeclaredBy (ms : Members) (q : Parameter) : Prop where
  keys : ms.KeysAre ["name", "in", "description", "required", "schema"] []
  name : (ms.get? "name").map Json.bare = some q.name
  description : (ms.get? "description").map Json.bare = some q.description
  place : ms.get? "in" = some (.string q.place.name)
  required : ms.get? "required" = some (.bool q.required)
  schema : ms.get? "schema" = some q.type.document
  path : q.place = .path → q.required = true ∧ q.type ≠ .boolean

/-- The place of a parameter settles what may be required of it, and of which types it is. -/
theorem Parameter.placeOf_eq_ok_iff {place : ParameterPlace} {required : Bool}
    {type : ParameterType} :
    placeOf p ms = .ok (place, required, type) ↔
      ms.get? "in" = some (.string place.name) ∧ ms.get? "required" = some (.bool required) ∧
      ms.get? "schema" = some type.document ∧
      (place = .path → required = true ∧ type ≠ .boolean) := by
  simp only [placeOf, Checked.bind_eq_ok, Members.fetch_eq_ok_iff]
  constructor
  · rintro ⟨v, hv, h⟩
    split at h
    next hp =>
      obtain rfl := Json.asString?_eq_some_iff.1 hp
      simp only [Checked.bind_eq_ok, Members.fetch_eq_ok_iff] at h
      obtain ⟨r, hr, h⟩ := h
      split_ifs at h with ht
      · exact absurd h refuse_ne_ok
      · simp only [Checked.bind_eq_ok, Checked.pure_eq_ok, Members.fetch_eq_ok_iff,
          ParameterType.ofJson_eq_ok_iff] at h
        obtain ⟨_, hs, _, ⟨hm, rfl⟩, h⟩ := h
        cases h
        obtain rfl := Json.asBool?_eq_some_iff.1 (not_not.1 ht)
        exact ⟨hv, hr, hs, fun _ => ⟨rfl, by rintro rfl; simp at hm⟩⟩
    next hp =>
      obtain rfl := Json.asString?_eq_some_iff.1 hp
      simp only [Checked.bind_eq_ok, Checked.pure_eq_ok, Members.fetch_eq_ok_iff,
        Json.expectFlag_eq_ok_iff, ParameterType.ofJson_eq_ok_iff] at h
      obtain ⟨_, hr, _, rfl, _, hs, _, ⟨-, rfl⟩, h⟩ := h
      cases h
      exact ⟨hv, hr, hs, fun h => by cases h⟩
    next => exact absurd h refuse_ne_ok
  · rintro ⟨hv, hr, hs, hp⟩
    refine ⟨_, hv, ?_⟩
    cases place with
    | path =>
      obtain ⟨rfl, ht⟩ := hp rfl
      simp only [Json.asString?, ParameterPlace.name, Checked.bind_eq_ok, Members.fetch_eq_ok_iff]
      refine ⟨_, hr, ?_⟩
      rw [if_neg (by simp [Json.asBool?])]
      simp only [Checked.bind_eq_ok, Checked.pure_eq_ok, Members.fetch_eq_ok_iff,
        ParameterType.ofJson_eq_ok_iff]
      exact ⟨_, hs, type, ⟨by cases type <;> simp_all, rfl⟩, rfl⟩
    | query =>
      simp only [Json.asString?, ParameterPlace.name, Checked.bind_eq_ok, Checked.pure_eq_ok,
        Members.fetch_eq_ok_iff, Json.expectFlag_eq_ok_iff, ParameterType.ofJson_eq_ok_iff]
      exact ⟨_, hr, required, rfl, _, hs, type, ⟨by cases type <;> simp, rfl⟩, rfl⟩

/-- **A parameter is read when it declares one.** -/
theorem Parameter.ofJson_eq_ok_iff {q : Parameter} :
    Parameter.ofJson p v = .ok q ↔ v.Record Parameter.DeclaredBy q := by
  simp only [Parameter.ofJson, Checked.bind_eq_ok, Checked.pure_eq_ok, Json.expectObject_eq_ok_iff,
    Members.checkKeys_eq_ok_iff, Members.fetch_eq_ok_iff, exists_const]
  refine exists_congr fun ms => and_congr_right fun _ => ?_
  constructor
  · rintro ⟨keys, n, hn, d, hd, ⟨place, required, type⟩, h, rfl⟩
    obtain ⟨hp, hr, hs, path⟩ := placeOf_eq_ok_iff.1 h
    exact ⟨keys, by rw [hn, Option.map_some], by rw [hd, Option.map_some], hp, hr, hs, path⟩
  · rintro ⟨keys, hn, hd, hp, hr, hs, path⟩
    obtain ⟨n, hn, hqn⟩ := Option.map_eq_some_iff.1 hn
    obtain ⟨d, hd, hqd⟩ := Option.map_eq_some_iff.1 hd
    exact ⟨keys, n, hn, d, hd, _, placeOf_eq_ok_iff.2 ⟨hp, hr, hs, path⟩, by rw [hqn, hqd]⟩

/-- An array, each element declaring its part. -/
def Json.Items {α : Type} (R : Json → α → Prop) (v : Json) (as : List α) : Prop :=
  ∃ items, v = .array items ∧ List.Forall₂ R items as

/-! ## Operations -/

namespace Operation

/-- Parameters are read in order, and there may be none. -/
theorem parametersOf_eq_ok_iff {place : Option Json} {qs : List Parameter} :
    parametersOf p place = .ok qs ↔
      Json.Optionally [] (Json.Items (Json.Record Parameter.DeclaredBy)) place qs := by
  cases place with
  | none => rw [parametersOf, Json.optionally_none_iff, Except.ok.injEq, eq_comm]
  | some v =>
    simp only [parametersOf, Json.optionally_some_iff, Json.Items, Checked.bind_eq_ok,
      Json.expectArray_eq_ok_iff]
    refine exists_congr fun items => and_congr_right fun _ => ?_
    exact Checked.mapM_zipIdx_eq_ok_iff fun _ _ => Parameter.ofJson_eq_ok_iff

/-- A request body may be left out. -/
theorem requestBodyOf_eq_ok_iff {place : Option Json} {b : Option RequestBody} :
    requestBodyOf components p place = .ok b ↔
      Json.Optionally none
        (fun v b => ∃ body, v.Record (RequestBody.DeclaredBy components) body ∧ some body = b)
        place b := by
  cases place with
  | none => rw [requestBodyOf, Json.optionally_none_iff, Except.ok.injEq, eq_comm]
  | some v =>
    simp only [requestBodyOf, Json.optionally_some_iff, Checked.map_eq_ok,
      RequestBody.ofJson_eq_ok_iff]

/-- There is one tag, and the document declares it. -/
theorem tagOf_eq_ok_iff {tags : List String} {tag : String} :
    tagOf p tags v = .ok tag ↔ ∃ w, v = .array [w] ∧ w.bare = tag ∧ tag ∈ tags := by
  unfold tagOf
  constructor
  · intro h
    split at h
    next w =>
      split_ifs at h with ht
      · cases h
        exact ⟨w, rfl, rfl, List.contains_iff_mem.1 ht⟩
      · exact absurd h refuse_ne_ok
    next => exact absurd h refuse_ne_ok
  · rintro ⟨w, rfl, rfl, ht⟩
    exact if_pos (List.contains_iff_mem.2 ht)

/-- The variables of a template are the names declared for the path. -/
theorem checkPathParameters_eq_ok_iff {t : Template} {qs : List Parameter} {u : Unit} :
    checkPathParameters p t qs = .ok u ↔
      ∀ name, name ∈ t.variableNames ↔ ∃ q ∈ qs, q.place = .path ∧ q.name = name := by
  have declared : ∀ name, name ∈ (qs.filter (·.place = .path)).map (·.name) ↔
      ∃ q ∈ qs, q.place = .path ∧ q.name = name := by
    intro name
    simp only [List.mem_map, List.mem_filter, decide_eq_true_eq, and_assoc]
  simp only [← declared]
  unfold checkPathParameters
  dsimp only
  split_ifs with hm hu
  · exact iff_of_false refuse_ne_ok fun h =>
      hm (filter_not_contains_eq_nil_iff.2 fun name => (h name).1)
  · exact iff_of_false refuse_ne_ok fun h =>
      hu (filter_not_contains_eq_nil_iff.2 fun name => (h name).2)
  · refine iff_of_true rfl fun name => ⟨?_, ?_⟩
    · exact filter_not_contains_eq_nil_iff.1 (not_not.1 hm) name
    · exact filter_not_contains_eq_nil_iff.1 (not_not.1 hu) name

end Operation

theorem Status.name_injective : Function.Injective Status.name := by
  intro a b
  cases a <;> cases b <;> decide

instance : Std.TransOrd Status := inferInstanceAs (Std.TransCmp (compareOn Status.ctorIdx))

instance : Std.LawfulEqOrd Status where
  eq_of_compare {a b} := by cases a <;> cases b <;> decide

/-- The name of a status is read back, as `default` or by its code. -/
theorem Status.parse?_name (k : Status) : parse? k.name = some k := by
  cases k <;> decide

/-- A response stands under the very name of its status. -/
theorem Status.readName_eq_ok_iff {s : String} {k : Status} :
    readName p Status.name Status.all Status.parse? s = .ok k ↔ s = k.name := by
  rw [ApiContract.readName_eq_ok_iff fun k _ => parse?_name k, and_iff_right]
  cases k <;> decide

/-- The responses of an operation, under the names of their statuses. -/
def Members.Responses (components : Components) : Members → List (Status × Response) → Prop :=
  Members.Map Status.name fun _ => Json.Record (Response.DeclaredBy components)

/-- The responses are read when they are declared. -/
theorem Operation.responsesOf_eq_ok_iff {m : List (Status × Response)} :
    responsesOf components p v = .ok m ↔ v.Record (Members.Responses components) m := by
  unfold responsesOf
  rw [Checked.bind_eq_ok]
  simp only [Json.expectObject_eq_ok_iff]
  refine exists_congr fun ms => and_congr_right fun _ => ?_
  exact Members.map_record_eq_ok_iff (fun s _ => Status.readName_eq_ok_iff (p := p.member s))
    fun name _ _ => Response.ofJson_eq_ok_iff (p := p.member name)

/-- What the members of an operation declare, given the components and tags of the document and the
template the operation stands under. -/
structure Operation.DeclaredBy (components : Components) (tags : List String) (t : Template)
    (ms : Members) (op : Operation) : Prop where
  keys : ms.KeysAre ["responses", "summary", "tags"] ["description", "requestBody", "parameters"]
  description : Json.IsOptionalText (ms.get? "description") op.description
  summary : ∃ text, Json.IsOptionalText (ms.get? "summary") text ∧ op.summary = text.getD ""
  tag : ∃ v, ms.get? "tags" = some (.array [v]) ∧ v.bare = op.tag ∧ op.tag ∈ tags
  parameters : Json.Optionally [] (Json.Items (Json.Record Parameter.DeclaredBy))
    (ms.get? "parameters") op.parameters
  captures : ∀ name, name ∈ t.variableNames ↔ ∃ q ∈ op.parameters, q.place = .path ∧ q.name = name
  requestBody : Json.Optionally none
    (fun v b => ∃ body, v.Record (RequestBody.DeclaredBy components) body ∧ some body = b)
    (ms.get? "requestBody") op.requestBody
  responses : ∃ v, ms.get? "responses" = some v ∧
    v.Record (Members.Responses components) op.responses

/-- **An operation is read when it declares one**, and gives what it declares. -/
theorem Operation.ofJson_eq_ok_iff {tags : List String} {t : Template} {op : Operation} :
    Operation.ofJson components tags t p v = .ok op ↔
      v.Record (Operation.DeclaredBy components tags t) op := by
  simp only [Operation.ofJson, Checked.bind_eq_ok, Checked.pure_eq_ok, Json.expectObject_eq_ok_iff,
    Members.checkKeys_eq_ok_iff, Members.fetch_eq_ok_iff, Json.expectOptionalText_eq_ok_iff,
    tagOf_eq_ok_iff, parametersOf_eq_ok_iff, checkPathParameters_eq_ok_iff, requestBodyOf_eq_ok_iff,
    responsesOf_eq_ok_iff, exists_const]
  refine exists_congr fun ms => and_congr_right fun _ => ?_
  constructor
  · rintro ⟨keys, _, hd, s, hs, _, ht, _, ⟨w, rfl, rfl, hw⟩, _, hq, captures, _, hb, _, hr, _,
      h, rfl⟩
    exact ⟨keys, hd, ⟨s, hs, rfl⟩, ⟨w, ht, rfl, hw⟩, hq, captures, hb, _, hr, h⟩
  · rintro ⟨keys, hd, ⟨s, hs, hos⟩, ⟨w, ht, hw, hm⟩, hq, captures, hb, _, hr, h⟩
    refine ⟨keys, _, hd, s, hs, _, ht, _, ⟨w, rfl, hw, hm⟩, _, hq, captures, _, hb, _, hr, _, h, ?_⟩
    rw [← hos]

end ApiContract
