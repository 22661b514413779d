import ApiContract.Proofs.Path.Instance
import ApiContract.Proofs.Traffic.Overlay
import ApiContract.Proofs.Traffic.Resolution

/-!
# Proofs/Traffic/Outcome — what becomes of a request

Each check of a request has two conditions, one under which it passes and one, for each rejection,
under which it rejects: a pair (`Operation.Admits`, `Operation.Refuses`), all pairs with the
required ones as a set (`Operation.RefusesParameters`) and the body (`Operation.AdmitsBody`,
`Operation.RefusesBody`).  **`Contract.checkRequest_outcome`** joins them: a request is accepted
when it belongs to an operation and meets what that asks, and otherwise it is rejected for the first
thing that is amiss.
-/

namespace ApiContract

/-! ## Parameters -/

/-- **A pair is admitted**: the operation has a parameter of its name, and the value is of the type
of the first. -/
def Operation.Admits (op : Operation) (p : String × String) : Prop :=
  ∃ q, IsFirst (·.name = p.1) op.parameters q ∧ q.type.Conforms p.2

/-- **Why a pair is refused**: no parameter has its name, or the value is not of the type of the
first that has. -/
inductive Operation.Refuses (op : Operation) (x : Exchange) : String × String → Rejection → Prop
  | unknown {name value : String} (h : ∀ q ∈ op.parameters, q.name ≠ name) :
    Refuses op x (name, value) (.unknownParameter name x)
  | integer {name value : String} {q : Parameter} (hq : IsFirst (·.name = name) op.parameters q)
    (type : q.type = .integer) (h : ¬ q.type.Conforms value) :
    Refuses op x (name, value) (.notInteger name value x)
  | boolean {name value : String} {q : Parameter} (hq : IsFirst (·.name = name) op.parameters q)
    (type : q.type = .boolean) (h : ¬ q.type.Conforms value) :
    Refuses op x (name, value) (.notBoolean name value x)

/-- **Why the parameters of a request are refused**: the first pair that is not admitted; or all
are, and required parameters, told in the order they are declared in, are not among them. -/
inductive Operation.RefusesParameters (op : Operation) (x : Exchange)
    (ps : List (String × String)) : Rejection → Prop
  | value {before after : List (String × String)} {p : String × String} {e : Rejection}
    (split : ps = before ++ p :: after) (admitted : ∀ p ∈ before, op.Admits p)
    (h : op.Refuses x p e) : RefusesParameters op x ps e
  | missing {names : List String} (admitted : ∀ p ∈ ps, op.Admits p)
    (missing : names = op.requiredParameters.filter (· ∉ ps.map (·.1))) (h : names ≠ []) :
    RefusesParameters op x ps (.missingParameters names x)

section Parameters

variable {op : Operation} {x : Exchange} {name value : String} {ps : List (String × String)}
  {e : Rejection}

/-- The parameter of a name is the first that has it. -/
theorem parameter?_eq_some_iff {q : Parameter} :
    op.parameter? name = some q ↔ IsFirst (·.name = name) op.parameters q :=
  find?_eq_some_iff_isFirst fun _ => beq_iff_eq

theorem parameter?_eq_none_iff :
    op.parameter? name = none ↔ ∀ q ∈ op.parameters, q.name ≠ name := by
  simp [Operation.parameter?]

/-- A pair passes when the operation admits it. -/
theorem checkParameter_eq_ok_iff_admits :
    checkParameter op x name value = .ok () ↔ op.Admits (name, value) := by
  rw [checkParameter_eq_ok_iff]
  simp only [parameter?_eq_some_iff, Operation.Admits]

/-- **A pair is rejected for what the operation refuses it for.** -/
theorem checkParameter_eq_error_iff :
    checkParameter op x name value = .error e ↔ op.Refuses x (name, value) e := by
  unfold checkParameter
  constructor
  · intro h
    split at h
    next hnone =>
      cases h
      exact .unknown (parameter?_eq_none_iff.1 hnone)
    next q hq =>
      have hq := parameter?_eq_some_iff.1 hq
      split_ifs at h with hadmits
      have hno : ¬ q.type.Conforms value := fun hc => hadmits (ParameterType.admits_iff.2 hc)
      cases htype : q.type with
      | string =>
        -- every text is one
        rw [htype] at hno
        exact absurd trivial hno
      | integer =>
        rw [htype] at h
        cases h
        exact .integer hq htype hno
      | boolean =>
        rw [htype] at h
        cases h
        exact .boolean hq htype hno
  · intro h
    cases h with
    | unknown h => rw [parameter?_eq_none_iff.2 h]
    | integer hq htype hno =>
      rw [parameter?_eq_some_iff.2 hq]
      dsimp only
      rw [if_neg fun ha => hno (ParameterType.admits_iff.1 ha), htype]
    | boolean hq htype hno =>
      rw [parameter?_eq_some_iff.2 hq]
      dsimp only
      rw [if_neg fun ha => hno (ParameterType.admits_iff.1 ha), htype]

/-- The parameters are checked one by one, and then the required ones that are not among them are
told. -/
theorem checkParameters_eq :
    checkParameters op x ps =
      ((ps.forM fun p => checkParameter op x p.1 p.2) >>= fun _ =>
        if op.requiredParameters.filter (· ∉ ps.map (·.1)) ≠ [] then
          .error (.missingParameters (op.requiredParameters.filter (· ∉ ps.map (·.1))) x)
        else .ok ()) := by
  have hmissing : (op.requiredParameters.filter fun name => !ps.any (·.1 == name)) =
      op.requiredParameters.filter (· ∉ ps.map (·.1)) := by
    refine List.filter_congr fun name _ => ?_
    rw [Bool.eq_iff_iff, decide_eq_true_iff, Bool.not_eq_true', ← Bool.not_eq_true,
      List.any_eq_true, List.mem_map]
    simp only [beq_iff_eq]
  rw [← hmissing]
  rfl

/-- All parameters pass when each is admitted and the required ones are there. -/
theorem checkParameters_eq_ok_iff :
    checkParameters op x ps = .ok () ↔ (∀ p ∈ ps, op.Admits p) ∧
      ∀ q ∈ op.parameters, q.required = true → q.name ∈ ps.map (·.1) := by
  have hrequired : op.requiredParameters.filter (· ∉ ps.map (·.1)) = [] ↔
      ∀ q ∈ op.parameters, q.required = true → q.name ∈ ps.map (·.1) := by
    rw [List.filter_eq_nil_iff, Operation.requiredParameters, List.forall_mem_map]
    simp only [decide_eq_true_eq, not_not, List.mem_filter, and_imp]
  rw [checkParameters_eq, Checked.bind_eq_ok, ← hrequired]
  simp only [Checked.forM_eq_ok_iff, checkParameter_eq_ok_iff_admits, exists_const]
  refine and_congr_right fun _ => ?_
  split_ifs with h
  · exact iff_of_false nofun h
  · exact iff_of_true rfl (not_not.1 h)

/-- **Parameters are rejected for the first that is refused**, or else for those that are missing.
-/
theorem checkParameters_eq_error_iff :
    checkParameters op x ps = .error e ↔ op.RefusesParameters x ps e := by
  rw [checkParameters_eq, Checked.bind_eq_error_iff]
  simp only [Checked.forM_eq_ok_iff, Checked.forM_eq_error_iff, checkParameter_eq_ok_iff_admits,
    checkParameter_eq_error_iff, exists_const]
  constructor
  · rintro (⟨before, p, after, split, admitted, h⟩ | ⟨admitted, h⟩)
    · exact .value split admitted h
    · split_ifs at h with hmissing
      cases h
      exact .missing admitted rfl hmissing
  · intro h
    cases h with
    | value split admitted h => exact .inl ⟨_, _, _, split, admitted, h⟩
    | missing admitted missing h =>
      subst missing
      exact .inr ⟨admitted, if_pos h⟩

end Parameters

/-! ## Bodies -/

/-- **A text is accepted**: it is JSON, and the evaluator accepts the value against the schema. -/
def Schema.AcceptsText (evaluate : Evaluator) (s : Schema) (text : String) : Prop :=
  ∃ v, Json.read text = .ok v ∧ evaluate s v = .ok ()

/-- **Why a text is refused**: it is no JSON, or the evaluator refuses the value. -/
inductive Schema.RefusesText (evaluate : Evaluator) (s : Schema) (text : String) : String → Prop
  | notJson {e : Json.ReadError} (h : Json.read text = .error e) :
    RefusesText evaluate s text e.text
  | broken {v : Json} {reason : String} (hv : Json.read text = .ok v)
    (h : evaluate s v = .error reason) : RefusesText evaluate s text reason

/-- **A body is admitted**: there is none, or an empty one, and none is required; or there is one,
of a media type that the operation declares for bodies, and the schema of this accepts it. -/
inductive Operation.AdmitsBody (evaluate : Evaluator) (op : Operation)
    (contentType body : Option String) : Prop
  | absent (none : body.getD "" = "") (h : ∀ d, op.requestBody = some d → d.required = false)
  | present {text : String} {d : RequestBody} {s : Schema} (given : body = some text)
    (filled : text ≠ "") (declared : op.requestBody = some d)
    (media : Keyed.Under Media.name d.content (Media.essence (contentType.getD "")) s)
    (h : s.AcceptsText evaluate text)

/-- **Why a body is refused**: it is required and not there; the operation has none, or none of its
media type; or its schema refuses it. -/
inductive Operation.RefusesBody (evaluate : Evaluator) (op : Operation) (x : Exchange)
    (contentType body : Option String) : Rejection → Prop
  | missing {d : RequestBody} (none : body.getD "" = "") (declared : op.requestBody = some d)
    (h : d.required = true) : RefusesBody evaluate op x contentType body (.bodyMissing x)
  | undeclared {text : String} (given : body = some text) (filled : text ≠ "")
    (h : op.requestBody = none) :
    RefusesBody evaluate op x contentType body
      (.bodyUndeclared (Media.essence (contentType.getD "")) x)
  | media {text : String} {d : RequestBody} (given : body = some text) (filled : text ≠ "")
    (declared : op.requestBody = some d)
    (h : ∀ e ∈ d.content, e.1.name ≠ Media.essence (contentType.getD "")) :
    RefusesBody evaluate op x contentType body (.bodyMedia (Media.essence (contentType.getD "")) x)
  | broken {text reason : String} {d : RequestBody} {s : Schema} (given : body = some text)
    (filled : text ≠ "") (declared : op.requestBody = some d)
    (media : Keyed.Under Media.name d.content (Media.essence (contentType.getD "")) s)
    (h : s.RefusesText evaluate text reason) :
    RefusesBody evaluate op x contentType body (.bodyBroken reason x)

section Bodies

variable {evaluate : Evaluator} {s : Schema} {text reason : String} {op : Operation} {x : Exchange}
  {contentType body : Option String} {e : Rejection}

/-- A text passes when it is JSON that the evaluator accepts. -/
theorem evaluateBody_eq_ok_iff :
    evaluateBody evaluate s text = .ok () ↔ s.AcceptsText evaluate text := by
  unfold evaluateBody Schema.AcceptsText
  cases Json.read text <;> simp

/-- A text is rejected in the words of the reader or of the evaluator. -/
theorem evaluateBody_eq_error_iff :
    evaluateBody evaluate s text = .error reason ↔ s.RefusesText evaluate text reason := by
  unfold evaluateBody
  constructor
  · intro h
    split at h
    next he =>
      cases h
      exact .notJson he
    next hv => exact .broken hv h
  · intro h
    cases h with
    | notJson he => rw [he]
    | broken hv h => rw [hv]; exact h

/-- A body counts unless it is absent or empty. -/
theorem presentBody_eq_none_iff : presentBody body = none ↔ body.getD "" = "" := by
  cases body <;> simp [presentBody, Option.filter]

theorem presentBody_eq_some_iff : presentBody body = some text ↔ body = some text ∧ text ≠ "" := by
  rw [presentBody, Option.filter_eq_some_iff]
  simp

/-- A body that is absent or empty is only missed where one is required. -/
theorem checkRequestBody_of_none (none : body.getD "" = "") :
    checkRequestBody evaluate op x contentType body =
      if op.requestBody.any (·.required) then .error (.bodyMissing x) else .ok () := by
  rw [checkRequestBody, presentBody_eq_none_iff.2 none]

/-- A body that is given to an operation without one is rejected. -/
theorem checkRequestBody_of_undeclared (given : body = some text) (filled : text ≠ "")
    (h : op.requestBody = none) :
    checkRequestBody evaluate op x contentType body =
      .error (.bodyUndeclared (Media.essence (contentType.getD "")) x) := by
  rw [checkRequestBody, presentBody_eq_some_iff.2 ⟨given, filled⟩, h]
  rfl

/-- A media type has one name. -/
theorem Media.ofName?_eq_some_iff {m : Media} {s : String} : ofName? s = some m ↔ m.name = s := by
  rw [ofName?, find?_name_eq_some_iff name_injective name_beq_iff, and_iff_right, eq_comm]
  cases m <;> decide

/-- A body of no declared media type is rejected for that. -/
theorem checkRequestBody_of_media {d : RequestBody} (given : body = some text) (filled : text ≠ "")
    (declared : op.requestBody = some d)
    (h : ∀ e ∈ d.content, e.1.name ≠ Media.essence (contentType.getD "")) :
    checkRequestBody evaluate op x contentType body =
      .error (.bodyMedia (Media.essence (contentType.getD "")) x) := by
  have hnone := (Keyed.bind_get?_eq_none_iff fun m => Media.ofName?_eq_some_iff).2 h
  simp only [checkRequestBody, presentBody_eq_some_iff.2 ⟨given, filled⟩, declared,
    Media.normalize, hnone]

/-- A body of a declared media type is left to the schema of it. -/
theorem checkRequestBody_of_schema {d : RequestBody} (wf : Keyed.Ascending d.content)
    (given : body = some text) (filled : text ≠ "") (declared : op.requestBody = some d)
    (media : Keyed.Under Media.name d.content (Media.essence (contentType.getD "")) s) :
    checkRequestBody evaluate op x contentType body =
      (evaluateBody evaluate s text).mapError fun reason => .bodyBroken reason x := by
  have hsome := (wf.bind_get?_eq_some_iff fun m => Media.ofName?_eq_some_iff).2 media
  simp only [checkRequestBody, presentBody_eq_some_iff.2 ⟨given, filled⟩, declared,
    Media.normalize, hsome]

/-- A body is absent or empty, or it is given. -/
theorem absent_or_given (body : Option String) :
    body.getD "" = "" ∨ ∃ text, body = some text ∧ text ≠ "" := by
  by_cases hbody : body.getD "" = ""
  · exact .inl hbody
  · cases body with
    | none => exact absurd rfl hbody
    | some text => exact .inr ⟨text, rfl, hbody⟩

/-- What a body is to an operation: absent, undeclared, of no declared media type, or of one with a
schema. -/
theorem requestBody_cases (op : Operation) (contentType body : Option String) :
    body.getD "" = "" ∨ ∃ text, body = some text ∧ text ≠ "" ∧
      (op.requestBody = none ∨ ∃ d, op.requestBody = some d ∧
        ((∃ s, Keyed.Under Media.name d.content (Media.essence (contentType.getD "")) s) ∨
          ∀ e ∈ d.content, e.1.name ≠ Media.essence (contentType.getD ""))) := by
  refine (absent_or_given body).imp_right fun ⟨text, given, filled⟩ => ⟨text, given, filled, ?_⟩
  cases op.requestBody with
  | none => exact .inl rfl
  | some d => exact .inr ⟨d, rfl, Keyed.exists_under_or _ _ _⟩

/-- **A body passes when the operation admits it.** -/
theorem checkRequestBody_eq_ok_iff (wf : op.WellFormed) :
    checkRequestBody evaluate op x contentType body = .ok () ↔
      op.AdmitsBody evaluate contentType body := by
  constructor
  · intro h
    rcases requestBody_cases op contentType body with
      none | ⟨text, given, filled, hnone | ⟨d, declared, ⟨s, media⟩ | hmedia⟩⟩
    · rw [checkRequestBody_of_none none] at h
      split_ifs at h with hrequired
      refine .absent none fun d hd => ?_
      rw [hd] at hrequired
      simpa using hrequired
    · rw [checkRequestBody_of_undeclared given filled hnone] at h
      cases h
    · rw [checkRequestBody_of_schema (wf.requestContent d declared) given filled declared media,
        Checked.mapError_eq_ok_iff, evaluateBody_eq_ok_iff] at h
      exact .present given filled declared media h
    · rw [checkRequestBody_of_media given filled declared hmedia] at h
      cases h
  · intro h
    cases h with
    | absent none h =>
      rw [checkRequestBody_of_none none, if_neg]
      rw [Option.any_eq_true]
      rintro ⟨d, hd, hrequired⟩
      rw [h d hd] at hrequired
      cases hrequired
    | present given filled declared media h =>
      rw [checkRequestBody_of_schema (wf.requestContent _ declared) given filled declared media,
        evaluateBody_eq_ok_iff.2 h]
      rfl

/-- **A body is rejected for what the operation refuses it for.** -/
theorem checkRequestBody_eq_error_iff (wf : op.WellFormed) :
    checkRequestBody evaluate op x contentType body = .error e ↔
      op.RefusesBody evaluate x contentType body e := by
  constructor
  · intro h
    rcases requestBody_cases op contentType body with
      none | ⟨text, given, filled, hnone | ⟨d, declared, ⟨s, media⟩ | hmedia⟩⟩
    · rw [checkRequestBody_of_none none] at h
      split_ifs at h with hrequired
      cases h
      obtain ⟨d, declared, hrequired⟩ := (Option.any_eq_true _ _).1 hrequired
      exact .missing none declared hrequired
    · rw [checkRequestBody_of_undeclared given filled hnone] at h
      cases h
      exact .undeclared given filled hnone
    · rw [checkRequestBody_of_schema (wf.requestContent d declared) given filled declared media,
        Checked.mapError_eq_error_iff] at h
      obtain ⟨reason, h, rfl⟩ := h
      exact .broken given filled declared media (evaluateBody_eq_error_iff.1 h)
    · rw [checkRequestBody_of_media given filled declared hmedia] at h
      cases h
      exact .media given filled declared hmedia
  · intro h
    cases h with
    | missing none declared h =>
      rw [checkRequestBody_of_none none, if_pos]
      rw [declared]
      exact h
    | undeclared given filled h => exact checkRequestBody_of_undeclared given filled h
    | media given filled declared h => exact checkRequestBody_of_media given filled declared h
    | broken given filled declared media h =>
      rw [checkRequestBody_of_schema (wf.requestContent _ declared) given filled declared media,
        evaluateBody_eq_error_iff.2 h]
      rfl

end Bodies

/-! ## Requests -/

/-- The exchange that the messages about a request name. -/
def Request.exchange (r : Request) : Exchange := ⟨r.path, Text.lowerCase r.method⟩

/-- **The parameters of a request** that goes to a path: the request path instantiates the template
with some values, which are those of the variables in their order, and the query is laid over
them. -/
def Request.HasParameters (r : Request) (e : PathEntry) (ps : List (String × String)) : Prop :=
  ∃ values,
    Template.Instantiates Template.SameLowerCase e.template.segments values
      (requestSegments r.path) ∧
    ps = requestParameters (e.template.variableNames.zip values) r.query

/-- **What an operation asks of a request** that goes to its path: every parameter is declared and
of its type, every required one is there, and so is a body the operation admits. -/
inductive Operation.Accepts (evaluate : Evaluator) (op : Operation) (e : PathEntry) (r : Request) :
    Prop
  | intro {ps : List (String × String)} (given : r.HasParameters e ps)
    (admitted : ∀ p ∈ ps, op.Admits p)
    (required : ∀ q ∈ op.parameters, q.required = true → q.name ∈ ps.map (·.1))
    (body : op.AdmitsBody evaluate r.contentType r.body) : Accepts evaluate op e r

/-- **Why an operation rejects a request** that goes to its path: for its parameters, or, these
being in order, for its body. -/
inductive Operation.Rejects (evaluate : Evaluator) (op : Operation) (e : PathEntry) (r : Request) :
    Rejection → Prop
  | parameters {ps : List (String × String)} {x : Rejection} (given : r.HasParameters e ps)
    (h : op.RefusesParameters r.exchange ps x) : Rejects evaluate op e r x
  | body {ps : List (String × String)} {x : Rejection} (given : r.HasParameters e ps)
    (admitted : ∀ p ∈ ps, op.Admits p)
    (required : ∀ q ∈ op.parameters, q.required = true → q.name ∈ ps.map (·.1))
    (h : op.RefusesBody evaluate r.exchange r.contentType r.body x) : Rejects evaluate op e r x

section Requests

variable {document : Json} {c : Contract} {evaluate : Evaluator} {r : Request}

/-- The parameters of a request that a path answers are what the overlay leaves of the variables and
the values that are extracted. -/
theorem Request.hasParameters_iff {e : PathEntry} (h : e.Answers r.path)
    {ps : List (String × String)} :
    r.HasParameters e ps ↔
      mergeParameters (e.template.extract (requestSegments r.path)) r.query = ps := by
  rw [mergeParameters_eq]
  constructor
  · rintro ⟨values, hvalues, rfl⟩
    rw [hvalues.extract_eq]
  · rintro rfl
    obtain ⟨values, hvalues⟩ := Template.matchesRequest_iff.1 h
    exact ⟨values, hvalues, by rw [hvalues.extract_eq]⟩

/-- **A request is accepted** when it belongs to an operation that accepts it. -/
theorem Contract.checkRequest_eq_ok_iff (hc : Contract.ofJson document = .ok c) :
    c.checkRequest evaluate r = .ok () ↔
      ∃ e op, c.Resolves r.method r.path e op ∧ op.Accepts evaluate e r := by
  rw [checkRequest, Checked.bind_eq_ok]
  simp only [Contract.resolve_eq_ok_iff_resolves hc]
  constructor
  · rintro ⟨_, ⟨e, op, h, rfl⟩, hchecks⟩
    obtain ⟨_, hparameters, hbody⟩ := Checked.bind_eq_ok.1 hchecks
    obtain ⟨admitted, required⟩ := checkParameters_eq_ok_iff.1 hparameters
    have hadmits := (checkRequestBody_eq_ok_iff (h.wellFormed hc)).1 hbody
    have given := (Request.hasParameters_iff h.path.holds).2 rfl
    exact ⟨e, op, h, .intro given admitted required hadmits⟩
  · rintro ⟨e, op, h, ⟨given, admitted, required, hbody⟩⟩
    refine ⟨_, ⟨e, op, h, rfl⟩, Checked.bind_eq_ok.2 ⟨(), ?_, ?_⟩⟩
    · rw [(Request.hasParameters_iff h.path.holds).1 given]
      exact checkParameters_eq_ok_iff.2 ⟨admitted, required⟩
    · exact (checkRequestBody_eq_ok_iff (h.wellFormed hc)).2 hbody

/-- **A request is rejected** because it belongs to no operation, or for what its operation rejects
it for. -/
theorem Contract.checkRequest_eq_error_iff (hc : Contract.ofJson document = .ok c) {x : Rejection} :
    c.checkRequest evaluate r = .error x ↔ c.Unresolved r.method r.path x ∨
      ∃ e op, c.Resolves r.method r.path e op ∧ op.Rejects evaluate e r x := by
  rw [checkRequest, Checked.bind_eq_error_iff, Contract.resolve_eq_error_iff]
  simp only [Contract.resolve_eq_ok_iff_resolves hc]
  refine or_congr_right ⟨?_, ?_⟩
  · rintro ⟨_, ⟨e, op, h, rfl⟩, hchecks⟩
    have given := (Request.hasParameters_iff h.path.holds).2 rfl
    refine ⟨e, op, h, ?_⟩
    rcases Checked.bind_eq_error_iff.1 hchecks with hparameters | ⟨_, hparameters, hbody⟩
    · exact .parameters given (checkParameters_eq_error_iff.1 hparameters)
    · obtain ⟨admitted, required⟩ := checkParameters_eq_ok_iff.1 hparameters
      exact .body given admitted required
        ((checkRequestBody_eq_error_iff (h.wellFormed hc)).1 hbody)
  · rintro ⟨e, op, h, hrejects⟩
    refine ⟨_, ⟨e, op, h, rfl⟩, ?_⟩
    rw [Checked.bind_eq_error_iff]
    cases hrejects with
    | parameters given hparameters =>
      rw [(Request.hasParameters_iff h.path.holds).1 given]
      exact .inl (checkParameters_eq_error_iff.2 hparameters)
    | body given admitted required hbody =>
      rw [(Request.hasParameters_iff h.path.holds).1 given]
      exact .inr ⟨(), checkParameters_eq_ok_iff.2 ⟨admitted, required⟩,
        (checkRequestBody_eq_error_iff (h.wellFormed hc)).2 hbody⟩

end Requests

/-- **What becomes of a request**, whatever the evaluator says of bodies: it is accepted exactly
when it belongs to an operation that accepts it, and it is rejected for the first thing that is
amiss. -/
theorem Contract.checkRequest_outcome {document : Json} {c : Contract}
    (hc : Contract.ofJson document = .ok c) (evaluate : Evaluator) (r : Request) :
    (c.checkRequest evaluate r = .ok () ↔
      ∃ e op, c.Resolves r.method r.path e op ∧ op.Accepts evaluate e r) ∧
    ∀ x, c.checkRequest evaluate r = .error x ↔ c.Unresolved r.method r.path x ∨
      ∃ e op, c.Resolves r.method r.path e op ∧ op.Rejects evaluate e r x :=
  ⟨Contract.checkRequest_eq_ok_iff hc, fun _ => Contract.checkRequest_eq_error_iff hc⟩

/-- The value in the path counts for the variable where the query does not have it, and is what a
request is rejected for; where the query does, its last value counts, and is what a request is
rejected for, not the body that comes after it. -/
theorem petRequest_outcome :
    (∃ e op, Contract.Resolves ⟨[petPath [pathId]]⟩ "GET" "/pets/7" e op ∧
      op.Accepts (fun _ _ => .ok ()) e ⟨"GET", "/pets/7", [], none, none⟩) ∧
    (∃ e op, Contract.Resolves ⟨[petPath [pathId]]⟩ "GET" "/pets/x" e op ∧
      op.Rejects (fun _ _ => .ok ()) e ⟨"GET", "/pets/x", [], none, none⟩
        (.notInteger "id" "x" ⟨"/pets/x", "get"⟩)) ∧
    (∃ e op, Contract.Resolves ⟨[petPath [pathId]]⟩ "GET" "/pets/x" e op ∧
      op.Accepts (fun _ _ => .ok ()) e ⟨"GET", "/pets/x", [("id", "0"), ("id", "7")], none, none⟩) ∧
    ∃ e op, Contract.Resolves ⟨[petPath [pathId]]⟩ "Get" "//Pets/7" e op ∧
      op.Rejects (fun _ _ => .ok ()) e ⟨"Get", "//Pets/7", [("id", "07")], none, some "Rex"⟩
        (.notInteger "id" "07" ⟨"//Pets/7", "get"⟩) := by
  have houtcome := Contract.checkRequest_outcome ofJson_petsDocument (fun _ _ => .ok ())
  refine ⟨?_, ?_, ?_, ?_⟩
  · exact (houtcome ⟨"GET", "/pets/7", [], none, none⟩).1.1 rfl
  · exact (((houtcome ⟨"GET", "/pets/x", [], none, none⟩).2 _).1 rfl).resolve_left nofun
  · exact (houtcome ⟨"GET", "/pets/x", [("id", "0"), ("id", "7")], none, none⟩).1.1 rfl
  · have h := (houtcome ⟨"Get", "//Pets/7", [("id", "07")], none, some "Rex"⟩).2
    exact ((h _).1 rfl).resolve_left nofun

end ApiContract
