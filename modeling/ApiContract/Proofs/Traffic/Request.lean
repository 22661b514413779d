import ApiContract.Proofs.Path.Route
import ApiContract.Proofs.Traffic.Parameters
import ApiContract.Traffic.Check

/-!
# Proofs/Traffic/Request — what an accepted request has

The checks of a request are read as conditions on it.  `Contract.pathValues_conform` says what they
promise of the path variables: the value that counts is of the type declared first under the name.
What counts is not always what the path says, as `pathValues_not_checked` shows.
-/

namespace ApiContract

/-! ## The checks as conditions -/

/-- An exchange belongs to the operation of its verb on the path that the router finds. -/
theorem Contract.resolve_eq_ok_iff {c : Contract} {method path : String} {resolved : Resolved} :
    c.resolve method path = .ok resolved ↔ ∃ route m operation,
      route? PathEntry.template c.paths path = some route ∧
      Method.parse? (Text.lowerCase method) = some m ∧
      Keyed.get? m route.entry.operations = some operation ∧
      resolved = ⟨operation, route.parameters, ⟨path, Text.lowerCase method⟩⟩ := by
  unfold resolve
  constructor
  · intro h
    split at h
    next => cases h
    next route hr =>
      dsimp only at h
      split at h
      next => cases h
      next operation ho =>
        cases h
        obtain ⟨m, hm, ho⟩ := Option.bind_eq_some_iff.1 ho
        exact ⟨route, m, operation, hr, hm, ho, rfl⟩
  · rintro ⟨route, m, operation, hr, hm, ho, rfl⟩
    simp only [hr, hm, Option.bind_some, ho]

/-- A pair passes when the first parameter of its name is of a type that the value conforms to. -/
theorem checkParameter_eq_ok_iff {op : Operation} {x : Exchange} {name value : String} {u : Unit} :
    checkParameter op x name value = .ok u ↔
      ∃ q, op.parameter? name = some q ∧ q.type.Conforms value := by
  unfold checkParameter
  cases op.parameter? name with
  | none => exact iff_of_false nofun nofun
  | some q =>
    dsimp only
    split_ifs with h
    · exact iff_of_true rfl ⟨q, rfl, ParameterType.admits_iff.1 h⟩
    · refine iff_of_false nofun ?_
      rintro ⟨q', hq, hconforms⟩
      cases hq
      exact h (ParameterType.admits_iff.2 hconforms)

/-- Every parameter of a request that passes is declared, and of the type declared first under its
name. -/
theorem conforms_of_checkParameters {op : Operation} {x : Exchange}
    {parameters : List (String × String)} {u : Unit} (h : checkParameters op x parameters = .ok u) :
    ∀ p ∈ parameters, ∃ q, op.parameter? p.1 = some q ∧ q.type.Conforms p.2 := by
  obtain ⟨_, hall, -⟩ := Checked.bind_eq_ok.1 h
  exact fun p hp => checkParameter_eq_ok_iff.1 (Checked.forM_eq_ok_iff.1 hall p hp)

/-- A variable that a request gives a value is one of the template. -/
theorem Template.mem_variableNames_of_extract {t : Template} {request : List String}
    {p : String × String} (h : p ∈ t.extract request) : p.1 ∈ t.variableNames := by
  obtain ⟨⟨s, segment⟩, hs, hp⟩ := List.mem_filterMap.1 h
  obtain ⟨name, hn, rfl⟩ := Option.map_eq_some_iff.1 hp
  exact List.mem_filterMap.2 ⟨s, (List.of_mem_zip hs).1, hn⟩

/-! ## The path variables of an accepted request -/

/-- The only parameter of a name is the first. -/
theorem Operation.parameter?_eq_of_unique {op : Operation} {name : String} {q q' : Parameter}
    (h : op.parameter? name = some q) (hunique : ∀ q ∈ op.parameters, q.name = name → q = q') :
    q = q' := by
  have hname : q.name = name := by simpa using List.find?_some h
  exact hunique q (List.mem_of_find?_eq_some h) hname

/-- **The path values of an accepted request.**  Each variable that the template extracts is
declared for the path, and the value that counts for it is of the type of the first parameter of its
name.  So the value in the path is of the type declared for it if the query does not have the name
and no other parameter does. -/
theorem Contract.pathValues_conform {document : Json} {c : Contract}
    (hc : Contract.ofJson document = .ok c) {evaluate : Evaluator} {r : Request}
    (h : c.checkRequest evaluate r = .ok ()) :
    ∃ route resolved, route? PathEntry.template c.paths r.path = some route ∧
      c.resolve r.method r.path = .ok resolved ∧
      ∀ i name value,
        (route.entry.template.extract (requestSegments r.path))[i]? = some (name, value) →
        (∃ q ∈ resolved.operation.parameters, q.place = .path ∧ q.name = name) ∧
        (∃ q, resolved.operation.parameter? name = some q ∧
          q.type.Conforms (effectiveValue (route.entry.template.extract (requestSegments r.path))
            r.query i name value)) ∧
        (name ∉ r.query.map (·.1) → ∀ q ∈ resolved.operation.parameters,
          q.place = .path → q.name = name →
          (∀ q' ∈ resolved.operation.parameters, q'.name = name → q' = q) →
          q.type.Conforms value) := by
  obtain ⟨resolved, hresolved, h⟩ := Checked.bind_eq_ok.1 h
  obtain ⟨_, hchecked, -⟩ := Checked.bind_eq_ok.1 h
  obtain ⟨route, m, operation, hroute, -, hoperation, rfl⟩ := Contract.resolve_eq_ok_iff.1 hresolved
  obtain ⟨hmem, -, hparameters⟩ := route?_sound hroute
  obtain ⟨o, ho, -, rfl⟩ := Keyed.exists_mem_of_get? hoperation
  refine ⟨route, _, hroute, hresolved, fun i name value hi => ?_⟩
  dsimp only at hchecked ⊢
  rw [hparameters] at hchecked
  have hvariable : name ∈ route.entry.template.variableNames :=
    Template.mem_variableNames_of_extract (List.mem_of_getElem? hi)
  -- what was checked has the value that counts in the place of the variable
  have hmerged := List.mem_of_getElem? (mergeParameters_getElem? r.query hi)
  obtain ⟨q, hq, hconforms⟩ := conforms_of_checkParameters hchecked _ hmerged
  refine ⟨(Contract.captures hc hmem ho name).1 hvariable, ⟨q, hq, hconforms⟩, ?_⟩
  intro hn q' _ _ _ hunique
  dsimp only at hconforms
  rw [effectiveValue_of_not_mem hn, Operation.parameter?_eq_of_unique hq hunique] at hconforms
  exact hconforms

/-! ## Path values that are not checked

The two conditions on the value in the path are needed: the query can give the variable another
value, and a parameter of the query can stand before the one of the path under the same name. -/

/-- Every value in the path is of the type of every parameter declared under its name for the
path. -/
def Request.PathValuesConform (r : Request) (t : Template) (op : Operation) : Prop :=
  ∀ p ∈ t.extract (requestSegments r.path), ∀ q ∈ op.parameters, q.place = .path → q.name = p.1 →
    q.type.Conforms p.2

/-- A parameter called `id`. -/
def idDocument (place type : String) : Json :=
  .object [("name", .string "id"), ("in", .string place), ("description", .string "Which pet"),
    ("required", .bool true), ("schema", .object [("type", .string type)])]

/-- A document of one path, with one operation and its parameters. -/
def petsDocument (parameters : List Json) : Json :=
  .object [("openapi", .string "3.0.0"),
    ("info", .object [("version", .string "1"), ("title", .string "Pets")]),
    ("tags", .array [.object [("name", .string "pets"), ("description", .string "All pets")]]),
    ("paths", .object [("/pets/\x7bid\x7d", .object [("get", .object [
      ("summary", .string "One pet"), ("tags", .array [.string "pets"]),
      ("parameters", .array parameters), ("responses", .object [])])])])]

/-- The parameter in the path. -/
def pathId : Parameter := ⟨"id", .path, "Which pet", true, .integer⟩

/-- A parameter of the same name in the query. -/
def queryId : Parameter := ⟨"id", .query, "Which pet", true, .string⟩

/-- The operation. -/
def getPet (parameters : List Parameter) : Operation :=
  ⟨"One pet", none, "pets", parameters, none, []⟩

/-- The path. -/
def petPath (parameters : List Parameter) : PathEntry :=
  ⟨⟨"/pets/\x7bid\x7d", [.const "pets", .var "id"]⟩, [(.get, getPet parameters)]⟩

theorem sortBySpecificity_petPath (parameters : List Parameter) :
    Template.sortBySpecificity PathEntry.template [petPath parameters] = [petPath parameters] :=
  List.mergeSort_singleton _

/-- The document with the parameter in the path. -/
theorem ofJson_petsDocument :
    Contract.ofJson (petsDocument [idDocument "path" "integer"]) = .ok ⟨[petPath [pathId]]⟩ := by
  rw [← sortBySpecificity_petPath]
  rfl

/-- The document with a parameter of the same name before it. -/
theorem ofJson_petsDocument_shared :
    Contract.ofJson (petsDocument [idDocument "query" "string", idDocument "path" "integer"]) =
      .ok ⟨[petPath [queryId, pathId]]⟩ := by
  rw [← sortBySpecificity_petPath]
  rfl

/-- A request that says nothing of the variable in its query passes with a value of the type. -/
theorem petValue_conforms : ParameterType.integer.Conforms "7" := by
  have haccepted : Contract.checkRequest (fun _ _ => .ok ()) ⟨[petPath [pathId]]⟩
      ⟨"GET", "/pets/7", [], none, none⟩ = .ok () := rfl
  obtain ⟨route, resolved, hroute, hresolved, h⟩ :=
    Contract.pathValues_conform ofJson_petsDocument haccepted
  have hr : route? PathEntry.template [petPath [pathId]] "/pets/7" =
      some ⟨petPath [pathId], [("id", "7")]⟩ := rfl
  have hs : Contract.resolve ⟨[petPath [pathId]]⟩ "GET" "/pets/7" =
      .ok ⟨getPet [pathId], [("id", "7")], ⟨"/pets/7", "get"⟩⟩ := rfl
  obtain rfl := Option.some.inj (hr.symm.trans hroute)
  obtain rfl := Except.ok.inj (hs.symm.trans hresolved)
  refine (h 0 "id" "7" rfl).2.2 List.not_mem_nil pathId List.mem_cons_self rfl rfl ?_
  exact fun q hq _ => List.mem_singleton.1 hq

/-- **The values in a path are not always of the types declared for them**, neither where each
parameter has a name of its own nor where there is no query. -/
theorem pathValues_not_checked :
    (¬ ∀ (document : Json) (c : Contract) (evaluate : Evaluator) (r : Request)
        (route : Route PathEntry) (resolved : Resolved),
      Contract.ofJson document = .ok c → c.checkRequest evaluate r = .ok () →
      route? PathEntry.template c.paths r.path = some route →
      c.resolve r.method r.path = .ok resolved →
      (resolved.operation.parameters.map (·.name)).Nodup →
      r.PathValuesConform route.entry.template resolved.operation) ∧
    ¬ ∀ (document : Json) (c : Contract) (evaluate : Evaluator) (r : Request)
        (route : Route PathEntry) (resolved : Resolved),
      Contract.ofJson document = .ok c → c.checkRequest evaluate r = .ok () →
      route? PathEntry.template c.paths r.path = some route →
      c.resolve r.method r.path = .ok resolved →
      r.query = [] → r.PathValuesConform route.entry.template resolved.operation := by
  have hno : ¬ ParameterType.integer.Conforms "abc" := fun h =>
    absurd (ParameterType.admits_iff.2 h) (by decide)
  constructor
  · intro h
    have hall := h _ ⟨[petPath [pathId]]⟩ (fun _ _ => .ok ())
      ⟨"GET", "/pets/abc", [("id", "5")], none, none⟩ ⟨petPath [pathId], [("id", "abc")]⟩
      ⟨getPet [pathId], [("id", "abc")], ⟨"/pets/abc", "get"⟩⟩ ofJson_petsDocument
      rfl rfl rfl (by decide)
    exact hno (hall ("id", "abc") List.mem_cons_self pathId List.mem_cons_self rfl rfl)
  · intro h
    have hall := h _ ⟨[petPath [queryId, pathId]]⟩ (fun _ _ => .ok ())
      ⟨"GET", "/pets/abc", [], none, none⟩ ⟨petPath [queryId, pathId], [("id", "abc")]⟩
      ⟨getPet [queryId, pathId], [("id", "abc")], ⟨"/pets/abc", "get"⟩⟩ ofJson_petsDocument_shared
      rfl rfl rfl rfl
    exact hno (hall ("id", "abc") List.mem_cons_self pathId (.tail _ List.mem_cons_self) rfl rfl)

end ApiContract
