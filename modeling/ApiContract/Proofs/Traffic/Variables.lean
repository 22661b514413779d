import ApiContract.Proofs.Path.Instance
import ApiContract.Proofs.Traffic.Outcome

/-!
# Proofs/Traffic/Variables — path variables are known and never missing

A request that is routed gives every variable of the template a value, and every variable is a
declared parameter.  `Contract.pathVariables_known` draws the two conclusions: a parameter that is
rejected as unknown comes from the query and is no variable, and the parameters that are reported
missing are the required ones that are neither variables nor in the query.
-/

namespace ApiContract

/-! ## What is overlaid and extracted, by name -/

section Names

variable {path query : List (String × String)} {name n v : String}

/-- Writing adds one name. -/
theorem mem_names_write :
    name ∈ (mergeParameters.write n v path).map (·.1) ↔ name = n ∨ name ∈ path.map (·.1) := by
  induction path with
  | nil => exact List.mem_singleton.trans (or_iff_left List.not_mem_nil).symm
  | cons first rest ih =>
    obtain ⟨m, w⟩ := first
    rw [mergeParameters.write]
    split_ifs with h
    · obtain rfl := eq_of_beq h
      simp
    · rw [List.map_cons, List.mem_cons, ih, List.map_cons, List.mem_cons]
      exact or_left_comm

/-- The parameters of a request have the names of the path and those of the query. -/
theorem mem_names_mergeParameters :
    name ∈ (mergeParameters path query).map (·.1) ↔
      name ∈ path.map (·.1) ∨ name ∈ query.map (·.1) := by
  induction query generalizing path with
  | nil => exact (or_iff_left List.not_mem_nil).symm
  | cons q query ih =>
    change name ∈ (mergeParameters (mergeParameters.write q.1 q.2 path) query).map (·.1) ↔ _
    rw [ih, mem_names_write, List.map_cons, List.mem_cons, or_assoc, or_left_comm]

end Names

/-! ## Requests -/

/-- A rejection for the body of a request. -/
inductive Rejection.OfRequestBody : Rejection → Prop
  | missing {x : Exchange} : OfRequestBody (.bodyMissing x)
  | undeclared {essence : String} {x : Exchange} : OfRequestBody (.bodyUndeclared essence x)
  | media {essence : String} {x : Exchange} : OfRequestBody (.bodyMedia essence x)
  | broken {reason : String} {x : Exchange} : OfRequestBody (.bodyBroken reason x)

/-- What the check of the body says is a rejection for the body. -/
theorem ofRequestBody_of_checkRequestBody {op : Operation} {x : Exchange} {e : Rejection}
    {evaluate : Evaluator} {contentType body : Option String}
    (h : checkRequestBody evaluate op x contentType body = .error e) : e.OfRequestBody := by
  unfold checkRequestBody at h
  split at h
  next =>
    split_ifs at h
    cases h
    exact .missing
  next =>
    dsimp only at h
    split at h
    next =>
      cases h
      exact .undeclared
    next =>
      split at h
      next =>
        cases h
        exact .media
      next =>
        obtain ⟨reason, -, rfl⟩ := Checked.mapError_eq_error_iff.1 h
        exact .broken

/-- A request whose operation is found is rejected for its parameters or for its body. -/
theorem Contract.rejection_of_checkRequest {c : Contract} {evaluate : Evaluator} {r : Request}
    {resolved : Resolved} {e : Rejection} (hr : c.resolve r.method r.path = .ok resolved)
    (h : c.checkRequest evaluate r = .error e) :
    resolved.operation.RefusesParameters resolved.exchange
        (mergeParameters resolved.parameters r.query) e ∨
      e.OfRequestBody := by
  unfold checkRequest at h
  rw [hr] at h
  rcases Checked.bind_eq_error_iff.1 h with h | ⟨_, h, hbody⟩
  · cases h
  · cases h
    rcases Checked.bind_eq_error_iff.1 hbody with h | ⟨_, -, h⟩
    · exact .inl (checkParameters_eq_error_iff.1 h)
    · exact .inr (ofRequestBody_of_checkRequestBody h)

/-- Of the checks only that of one parameter rejects a name as unknown: one that is given and not
declared. -/
theorem Contract.unknown_of_checkRequest {c : Contract} {evaluate : Evaluator} {r : Request}
    {resolved : Resolved} {name : String} {x : Exchange}
    (hr : c.resolve r.method r.path = .ok resolved)
    (h : c.checkRequest evaluate r = .error (.unknownParameter name x)) :
    name ∈ (mergeParameters resolved.parameters r.query).map (·.1) ∧
      ∀ q ∈ resolved.operation.parameters, q.name ≠ name := by
  rcases rejection_of_checkRequest hr h with hrefuses | hbody
  · cases hrefuses with
    | value split _ hrefuses =>
      cases hrefuses with
      | unknown hnone =>
        rw [split, List.map_append]
        exact ⟨List.mem_append_right _ List.mem_cons_self, hnone⟩
  · cases hbody

/-- Only the last check of the parameters rejects names as missing: the required ones that are not
given. -/
theorem Contract.missing_of_checkRequest {c : Contract} {evaluate : Evaluator} {r : Request}
    {resolved : Resolved} {names : List String} {x : Exchange}
    (hr : c.resolve r.method r.path = .ok resolved)
    (h : c.checkRequest evaluate r = .error (.missingParameters names x)) (name : String) :
    name ∈ names ↔
      name ∈ resolved.operation.requiredParameters ∧
        name ∉ (mergeParameters resolved.parameters r.query).map (·.1) := by
  rcases rejection_of_checkRequest hr h with hrefuses | hbody
  · cases hrefuses with
    | value _ _ hrefuses => cases hrefuses
    | missing _ missing _ => rw [missing, List.mem_filter, decide_eq_true_iff]
  · cases hbody

/-- **Path variables are known and never missing.**  If a request, its operation being found, is
rejected for a parameter that is not declared, the query has the parameter and the template has no
variable of the name.  If it is rejected for parameters that are missing, those are the required
ones that the query does not have and that are no variables. -/
theorem Contract.pathVariables_known {document : Json} {c : Contract}
    (hc : Contract.ofJson document = .ok c) {r : Request} {resolved : Resolved}
    (hr : c.resolve r.method r.path = .ok resolved) (evaluate : Evaluator) :
    ∃ route, route? PathEntry.template c.paths r.path = some route ∧
      (∀ name x, c.checkRequest evaluate r = .error (.unknownParameter name x) →
        name ∈ r.query.map (·.1) ∧ name ∉ route.entry.template.variableNames ∧
          ∀ q ∈ resolved.operation.parameters, q.name ≠ name) ∧
      ∀ names x, c.checkRequest evaluate r = .error (.missingParameters names x) →
        ∀ name, name ∈ names ↔ name ∈ resolved.operation.requiredParameters ∧
          name ∉ r.query.map (·.1) ∧ name ∉ route.entry.template.variableNames := by
  obtain ⟨route, m, operation, hroute, -, hoperation, rfl⟩ := Contract.resolve_eq_ok_iff.1 hr
  obtain ⟨hmem, hmatch, hparameters⟩ := route?_sound hroute
  obtain ⟨o, ho, -, rfl⟩ := Keyed.exists_mem_of_get? hoperation
  have hnames (name : String) :
      name ∈ (mergeParameters route.parameters r.query).map (·.1) ↔
        name ∈ route.entry.template.variableNames ∨ name ∈ r.query.map (·.1) := by
    rw [mem_names_mergeParameters, hparameters, (Template.instantiates_of_matchesRequest hmatch).1]
  refine ⟨route, hroute, fun name x h => ?_, fun names x h name => ?_⟩
  · obtain ⟨hgiven, hundeclared⟩ := unknown_of_checkRequest hr h
    -- every variable is declared, so the name is none
    have hvariable : name ∉ route.entry.template.variableNames := by
      rw [Contract.captures hc hmem ho name]
      rintro ⟨q, hq, -, hname⟩
      exact hundeclared q hq hname
    exact ⟨((hnames name).1 hgiven).resolve_left hvariable, hvariable, hundeclared⟩
  · rw [missing_of_checkRequest hr h name, hnames, not_or]
    exact and_congr_right fun _ => and_comm

/-! A path with a variable, and a parameter that the query must have. -/

/-- A parameter of the query. -/
def colorDocument : Json :=
  .object [("name", .string "color"), ("in", .string "query"),
    ("description", .string "Of the coat"), ("required", .bool true),
    ("schema", .object [("type", .string "string")])]

/-- The same, as it is read. -/
def queryColor : Parameter := ⟨"color", .query, "Of the coat", true, .string⟩

theorem ofJson_colorDocument :
    Contract.ofJson (petsDocument [idDocument "path" "integer", colorDocument]) =
      .ok ⟨[petPath [pathId, queryColor]]⟩ := by
  rw [← sortBySpecificity_petPath]
  rfl

/-- A request that has a parameter nobody declares, and one that leaves out a parameter: neither is
the variable. -/
theorem petId_known :
    "size" ∉ (petPath [pathId, queryColor]).template.variableNames ∧
      "color" ∉ (petPath [pathId, queryColor]).template.variableNames := by
  have hroute : route? PathEntry.template [petPath [pathId, queryColor]] "/pets/7" =
      some ⟨petPath [pathId, queryColor], [("id", "7")]⟩ := rfl
  constructor
  · obtain ⟨route, hr, hunknown, -⟩ := Contract.pathVariables_known ofJson_colorDocument
      (r := ⟨"GET", "/pets/7", [("size", "L")], none, none⟩) rfl (fun _ _ => .ok ())
    obtain rfl := Option.some.inj (hroute.symm.trans hr)
    exact (hunknown "size" ⟨"/pets/7", "get"⟩ rfl).2.1
  · obtain ⟨route, hr, -, hmissing⟩ := Contract.pathVariables_known ofJson_colorDocument
      (r := ⟨"GET", "/pets/7", [], none, none⟩) rfl (fun _ _ => .ok ())
    obtain rfl := Option.some.inj (hroute.symm.trans hr)
    exact ((hmissing ["color"] ⟨"/pets/7", "get"⟩ rfl "color").1 List.mem_cons_self).2.2

end ApiContract
