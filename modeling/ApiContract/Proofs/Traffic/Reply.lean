import ApiContract.Proofs.Traffic.Decimal
import ApiContract.Proofs.Traffic.Outcome

/-!
# Proofs/Traffic/Reply — what becomes of a response

A response belongs to the operation that a request with its method and path belongs to.  It is
checked against what the operation declares for its status, or else by default
(`Operation.AnswersStatus`), and against that alone: what its body breaks there is not made good by
the default.  **`Contract.checkResponse_outcome`** says all of it.
-/

namespace ApiContract

/-! ## Statuses -/

/-- The status of a code is the one that is called like it. -/
theorem Status.ofCode?_eq_some_iff {n : Nat} {k : Status} :
    ofCode? n = some k ↔ k.name = toString n := by
  constructor
  · intro h
    unfold ofCode? at h
    split at h <;> cases h <;> rfl
  · intro h
    have hdigits : k.name.toList = Nat.toDigits 10 n := by
      rw [h]
      exact Nat.toList_repr
    have hvalue : decimalValue k.name = n := by rw [h, decimalValue_toString]
    cases k with
    | default =>
      have hd : 'd' ∈ Nat.toDigits 10 n := hdigits ▸ List.mem_cons_self
      exact absurd (Nat.isDigit_of_mem_toDigits (by decide) (by decide) hd) (by decide)
    | _ =>
      obtain rfl := hvalue
      rfl

/-- **The response that answers for a status**: the one declared for it, or the default where none
is. -/
inductive Operation.AnswersStatus (op : Operation) (status : Nat) (r : Response) : Prop
  | exact (h : Keyed.Under Status.name op.responses (toString status) r)
  | default (none : ∀ o ∈ op.responses, o.1.name ≠ toString status)
    (h : (.default, r) ∈ op.responses)

/-- **An operation says nothing of a status**: it declares neither a response for it nor a
default. -/
def Operation.Silent (op : Operation) (status : Nat) : Prop :=
  ∀ o ∈ op.responses, o.1.name ≠ toString status ∧ o.1 ≠ .default

section Status

variable {op : Operation} {status : Nat} {r : Response}

/-- The response of a status is the one that answers for it. -/
theorem responseFor?_eq_some_iff (wf : op.WellFormed) :
    op.responseFor? status = some r ↔ op.AnswersStatus status r := by
  have hkey (k : Status) : Status.ofCode? status = some k ↔ k.name = toString status :=
    Status.ofCode?_eq_some_iff
  rw [Operation.responseFor?, ← Option.or_eq_orElse, Option.or_eq_some_iff,
    Keyed.bind_get?_eq_none_iff hkey, wf.responses.bind_get?_eq_some_iff hkey,
    wf.responses.get?_eq_some_iff]
  constructor
  · rintro (h | ⟨none, h⟩)
    · exact .exact h
    · exact .default none h
  · rintro (h | ⟨none, h⟩)
    · exact .inl h
    · exact .inr ⟨none, h⟩

/-- There is none where the operation says nothing of the status. -/
theorem responseFor?_eq_none_iff : op.responseFor? status = none ↔ op.Silent status := by
  have hkey (k : Status) : Status.ofCode? status = some k ↔ k.name = toString status :=
    Status.ofCode?_eq_some_iff
  rw [Operation.responseFor?, ← Option.or_eq_orElse, Option.or_eq_none_iff,
    Keyed.bind_get?_eq_none_iff hkey, Keyed.get?_eq_none_iff]
  simp only [Operation.Silent, forall_and]

/-- An operation has a response that answers for a status, or it says nothing of it. -/
theorem Operation.answers_or_silent (op : Operation) (wf : op.WellFormed) (status : Nat) :
    (∃ r, op.AnswersStatus status r) ∨ op.Silent status := by
  cases h : op.responseFor? status with
  | none => exact .inr (responseFor?_eq_none_iff.1 h)
  | some r => exact .inl ⟨r, (responseFor?_eq_some_iff wf).1 h⟩

/-- The content of a response that answers can be looked up, and is of its media types. -/
theorem Operation.AnswersStatus.content (h : op.AnswersStatus status r) (wf : op.WellFormed) :
    Keyed.Ascending r.content ∧ ∀ e ∈ r.content, e.2.OfMedia e.1 := by
  cases h with
  | exact h =>
    obtain ⟨k, -, hmem⟩ := h
    exact wf.responseContent _ hmem
  | default none h => exact wf.responseContent _ h

end Status

/-! ## Bodies -/

/-- **A response admits a body**: there is none, or an empty one; or the media type is declared, and
is that of text, or JSON whose schema accepts the body. -/
inductive Response.AdmitsBody (evaluate : Evaluator) (r : Response)
    (contentType body : Option String) : Prop
  | absent (none : body.getD "" = "")
  | text (media : Media.text.name = Media.essence (contentType.getD ""))
    (declared : .text ∈ r.content.map (·.1))
  | json {text : String} {s : Schema} (given : body = some text)
    (media : Media.json.name = Media.essence (contentType.getD ""))
    (declared : (.json, .schema s) ∈ r.content) (h : s.AcceptsText evaluate text)

/-- **Why a response refuses a body**: its media type is not declared, or the schema of JSON refuses
it. -/
inductive Response.RefusesBody (evaluate : Evaluator) (r : Response) (x : Exchange) (status : Nat)
    (contentType body : Option String) : Rejection → Prop
  | media {text : String} (given : body = some text) (filled : text ≠ "")
    (h : ∀ e ∈ r.content, e.1.name ≠ Media.essence (contentType.getD "")) :
    RefusesBody evaluate r x status contentType body
      (.responseMedia (Media.essence (contentType.getD "")) status x)
  | broken {text reason : String} {s : Schema} (given : body = some text) (filled : text ≠ "")
    (media : Media.json.name = Media.essence (contentType.getD ""))
    (declared : (.json, .schema s) ∈ r.content) (h : s.RefusesText evaluate text reason) :
    RefusesBody evaluate r x status contentType body
      (.responseBroken reason (Media.essence (contentType.getD "")) status x)

section Bodies

variable {evaluate : Evaluator} {r : Response} {x : Exchange} {status : Nat}
  {contentType body : Option String} {text : String} {c : Content} {e : Rejection}

/-- A body that is absent or empty is not looked at. -/
theorem checkResponseBody_of_none (none : body.getD "" = "") :
    checkResponseBody evaluate r x status contentType body = .ok () := by
  rw [checkResponseBody, presentBody_eq_none_iff.2 none]

/-- A body of no declared media type is rejected for that. -/
theorem checkResponseBody_of_media (given : body = some text) (filled : text ≠ "")
    (h : ∀ e ∈ r.content, e.1.name ≠ Media.essence (contentType.getD "")) :
    checkResponseBody evaluate r x status contentType body =
      .error (.responseMedia (Media.essence (contentType.getD "")) status x) := by
  have hnone := (Keyed.bind_get?_eq_none_iff fun m => Media.ofName?_eq_some_iff).2 h
  simp only [checkResponseBody, presentBody_eq_some_iff.2 ⟨given, filled⟩, Media.normalize, hnone]

/-- A body of a declared media type is left to its content, of which only schemas say anything. -/
theorem checkResponseBody_of_content (ascending : Keyed.Ascending r.content)
    (given : body = some text) (filled : text ≠ "")
    (media : Keyed.Under Media.name r.content (Media.essence (contentType.getD "")) c) :
    checkResponseBody evaluate r x status contentType body =
      match c with
      | .example _ => .ok ()
      | .schema s => (evaluateBody evaluate s text).mapError fun reason =>
          .responseBroken reason (Media.essence (contentType.getD "")) status x := by
  have hsome := (ascending.bind_get?_eq_some_iff fun m => Media.ofName?_eq_some_iff).2 media
  simp only [checkResponseBody, presentBody_eq_some_iff.2 ⟨given, filled⟩, Media.normalize, hsome]
  cases c <;> rfl

/-- What a body is to a response: absent, of a media type with content, or of none that is
declared. -/
theorem responseBody_cases (r : Response) (contentType body : Option String) :
    body.getD "" = "" ∨ ∃ text, body = some text ∧ text ≠ "" ∧
      ((∃ c, Keyed.Under Media.name r.content (Media.essence (contentType.getD "")) c) ∨
        ∀ e ∈ r.content, e.1.name ≠ Media.essence (contentType.getD "")) :=
  (absent_or_given body).imp_right fun ⟨text, given, filled⟩ =>
    ⟨text, given, filled, Keyed.exists_under_or _ _ _⟩

variable (ascending : Keyed.Ascending r.content) (kinds : ∀ e ∈ r.content, e.2.OfMedia e.1)
include ascending kinds

/-- **A body passes when the response admits it.** -/
theorem checkResponseBody_eq_ok_iff :
    checkResponseBody evaluate r x status contentType body = .ok () ↔
      r.AdmitsBody evaluate contentType body := by
  constructor
  · intro h
    rcases responseBody_cases r contentType body with
        none | ⟨text, given, filled, ⟨c, m, media, declared⟩ | hmedia⟩
    · exact .absent none
    · rw [checkResponseBody_of_content ascending given filled ⟨m, media, declared⟩] at h
      cases kinds _ declared with
      | «example» => exact .text media (List.mem_map_of_mem declared)
      | schema =>
        exact .json given media declared (evaluateBody_eq_ok_iff.1 (Checked.mapError_eq_ok_iff.1 h))
    · rw [checkResponseBody_of_media given filled hmedia] at h
      cases h
  · intro h
    rcases absent_or_given body with none | ⟨text, given, filled⟩
    · exact checkResponseBody_of_none none
    · cases h with
      | absent none => exact checkResponseBody_of_none none
      | text media declared =>
        obtain ⟨⟨m, c⟩, declared, rfl⟩ := List.mem_map.1 declared
        rw [checkResponseBody_of_content ascending given filled ⟨_, media, declared⟩]
        cases kinds _ declared
        rfl
      | json given' media declared h =>
        obtain rfl := Option.some.inj (given.symm.trans given')
        rw [checkResponseBody_of_content ascending given filled ⟨_, media, declared⟩]
        exact Checked.mapError_eq_ok_iff.2 (evaluateBody_eq_ok_iff.2 h)

/-- **A body is rejected for what the response refuses it for.** -/
theorem checkResponseBody_eq_error_iff :
    checkResponseBody evaluate r x status contentType body = .error e ↔
      r.RefusesBody evaluate x status contentType body e := by
  constructor
  · intro h
    rcases responseBody_cases r contentType body with
        none | ⟨text, given, filled, ⟨c, m, media, declared⟩ | hmedia⟩
    · rw [checkResponseBody_of_none none] at h
      cases h
    · rw [checkResponseBody_of_content ascending given filled ⟨m, media, declared⟩] at h
      cases kinds _ declared with
      | «example» => cases h
      | schema =>
        obtain ⟨reason, hreason, rfl⟩ := Checked.mapError_eq_error_iff.1 h
        exact .broken given filled media declared (evaluateBody_eq_error_iff.1 hreason)
    · rw [checkResponseBody_of_media given filled hmedia] at h
      cases h
      exact .media given filled hmedia
  · intro h
    cases h with
    | media given filled h => exact checkResponseBody_of_media given filled h
    | broken given filled media declared h =>
      rw [checkResponseBody_of_content ascending given filled ⟨_, media, declared⟩]
      exact Checked.mapError_eq_error_iff.2 ⟨_, evaluateBody_eq_error_iff.2 h, rfl⟩

end Bodies

/-! ## Responses -/

/-- A rejection for want of an operation. -/
inductive Rejection.OfResolution : Rejection → Prop
  | noPath {path : String} : OfResolution (.noPath path)
  | noOperation {x : Exchange} : OfResolution (.noOperation x)

/-- The exchange that the messages about a response name. -/
def Reply.exchange (r : Reply) : Exchange := ⟨r.path, Text.lowerCase r.method⟩

section Replies

variable {document : Json} {c : Contract} {evaluate : Evaluator} {r : Reply} {e : PathEntry}
  {op : Operation} {declared : Response} {x : Rejection}

namespace Contract

/-- An exchange belongs to an operation or there is a reason why it does not. -/
theorem exists_resolves_or_unresolved (hc : Contract.ofJson document = .ok c)
    (method path : String) :
    (∃ e op, c.Resolves method path e op) ∨ ∃ x, c.Unresolved method path x := by
  cases h : c.resolve method path with
  | ok resolved =>
    obtain ⟨e, op, hresolves, -⟩ := (resolve_eq_ok_iff_resolves hc).1 h
    exact .inl ⟨e, op, hresolves⟩
  | error x => exact .inr ⟨x, resolve_eq_error_iff.1 h⟩

/-- An exchange belongs to no operation for want of a path or of a verb. -/
theorem Unresolved.ofResolution {method path : String} (h : c.Unresolved method path x) :
    x.OfResolution := by
  cases h with
  | noPath => exact .noPath
  | noOperation => exact .noOperation

/-- A response that belongs to no operation is rejected for that. -/
theorem checkResponse_of_unresolved (h : c.Unresolved r.method r.path x) :
    c.checkResponse evaluate r = .error x := by
  rw [checkResponse, resolve_eq_error_iff.2 h]
  rfl

section Resolved

variable (hc : Contract.ofJson document = .ok c) (h : c.Resolves r.method r.path e op)
include hc h

/-- A response that belongs to an operation is checked against what this declares for its status. -/
theorem checkResponse_of_resolves :
    c.checkResponse evaluate r =
      match op.responseFor? r.status with
      | none => .error (.noStatus r.status r.exchange)
      | some declared =>
        checkResponseBody evaluate declared r.exchange r.status r.contentType r.body := by
  rw [checkResponse, (resolve_eq_ok_iff_resolves hc).2 ⟨e, op, h, rfl⟩]
  rfl

/-- Where the operation says nothing of the status, the response is rejected for that. -/
theorem checkResponse_of_silent (silent : op.Silent r.status) :
    c.checkResponse evaluate r = .error (.noStatus r.status r.exchange) := by
  rw [checkResponse_of_resolves hc h, responseFor?_eq_none_iff.2 silent]

/-- Where a declared response answers for the status, it decides about the body. -/
theorem checkResponse_of_answers (answers : op.AnswersStatus r.status declared) :
    c.checkResponse evaluate r =
      checkResponseBody evaluate declared r.exchange r.status r.contentType r.body := by
  rw [checkResponse_of_resolves hc h, (responseFor?_eq_some_iff (h.wellFormed hc)).2 answers]

/-- A response passes when what answers for its status admits the body. -/
theorem checkResponse_eq_ok_iff (answers : op.AnswersStatus r.status declared) :
    c.checkResponse evaluate r = .ok () ↔ declared.AdmitsBody evaluate r.contentType r.body := by
  obtain ⟨ascending, kinds⟩ := answers.content (h.wellFormed hc)
  rw [checkResponse_of_answers hc h answers, checkResponseBody_eq_ok_iff ascending kinds]

/-- A response is rejected for what that refuses the body for. -/
theorem checkResponse_eq_error_iff (answers : op.AnswersStatus r.status declared) :
    c.checkResponse evaluate r = .error x ↔
      declared.RefusesBody evaluate r.exchange r.status r.contentType r.body x := by
  obtain ⟨ascending, kinds⟩ := answers.content (h.wellFormed hc)
  rw [checkResponse_of_answers hc h answers, checkResponseBody_eq_error_iff ascending kinds]

/-- Only for want of a declaration is the status not found, never for what the body is. -/
theorem checkResponse_eq_noStatus_iff :
    c.checkResponse evaluate r = .error (.noStatus r.status r.exchange) ↔ op.Silent r.status := by
  refine ⟨fun hr => ?_, checkResponse_of_silent hc h⟩
  rcases op.answers_or_silent (h.wellFormed hc) r.status with ⟨declared, answers⟩ | silent
  · exact nomatch (checkResponse_eq_error_iff hc h answers).1 hr
  · exact silent

/-- No response that belongs to an operation is rejected for want of one. -/
theorem checkResponse_ne_of_resolves (hx : x.OfResolution) :
    c.checkResponse evaluate r ≠ .error x := by
  intro hr
  rcases op.answers_or_silent (h.wellFormed hc) r.status with ⟨declared, answers⟩ | silent
  · cases (checkResponse_eq_error_iff hc h answers).1 hr <;> cases hx
  · rw [checkResponse_of_silent hc h silent] at hr
    cases hr
    cases hx

end Resolved

/-- A response is rejected for want of an operation where there is none. -/
theorem checkResponse_eq_unresolved_iff (hc : Contract.ofJson document = .ok c)
    (hx : x.OfResolution) :
    c.checkResponse evaluate r = .error x ↔ c.Unresolved r.method r.path x := by
  refine ⟨fun hr => ?_, checkResponse_of_unresolved⟩
  rcases exists_resolves_or_unresolved hc r.method r.path with ⟨e, op, h⟩ | ⟨y, h⟩
  · exact absurd hr (checkResponse_ne_of_resolves hc h hx)
  · rw [checkResponse_of_unresolved h] at hr
    cases hr
    exact h

/-- A request is rejected for want of an operation where there is none. -/
theorem checkRequest_eq_unresolved_iff (hc : Contract.ofJson document = .ok c) (hx : x.OfResolution)
    {q : Request} :
    c.checkRequest evaluate q = .error x ↔ c.Unresolved q.method q.path x := by
  rw [checkRequest_eq_error_iff hc, or_iff_left]
  rintro ⟨e, op, -, hrejects⟩
  cases hrejects with
  | parameters _ h =>
    cases h with
    | value split admitted h => cases h <;> cases hx
    | missing => cases hx
  | body _ _ _ h => cases h <;> cases hx

end Contract

end Replies

/-- **What becomes of a response**, whatever the evaluator says of bodies.  For want of an operation
it is rejected just as requests with its method and path are.  Where there is an operation, its
status is not found exactly when the operation says nothing of it; and what answers for the status
decides about the body alone. -/
theorem Contract.checkResponse_outcome {document : Json} {c : Contract}
    (hc : Contract.ofJson document = .ok c) (evaluate : Evaluator) (r : Reply) :
    (∀ x, x.OfResolution → ∀ q : Request, q.method = r.method → q.path = r.path →
      (c.checkResponse evaluate r = .error x ↔ c.checkRequest evaluate q = .error x)) ∧
    ((∃ x, x.OfResolution ∧ c.checkResponse evaluate r = .error x) ∨
      ∃ e op, c.Resolves r.method r.path e op) ∧
    ∀ e op, c.Resolves r.method r.path e op →
      (c.checkResponse evaluate r = .error (.noStatus r.status r.exchange) ↔ op.Silent r.status) ∧
      ((∃ declared, op.AnswersStatus r.status declared) ∨ op.Silent r.status) ∧
      ∀ declared, op.AnswersStatus r.status declared →
        (c.checkResponse evaluate r = .ok () ↔ declared.AdmitsBody evaluate r.contentType r.body) ∧
        ∀ x, c.checkResponse evaluate r = .error x ↔
          declared.RefusesBody evaluate r.exchange r.status r.contentType r.body x := by
  refine ⟨fun x hx q hmethod hpath => ?_, ?_,
    fun e op h => ⟨?_, ?_, fun declared answers => ⟨?_, fun x => ?_⟩⟩⟩
  · rw [checkResponse_eq_unresolved_iff hc hx, checkRequest_eq_unresolved_iff hc hx, hmethod, hpath]
  · rcases exists_resolves_or_unresolved hc r.method r.path with h | ⟨x, h⟩
    · exact .inr h
    · exact .inl ⟨x, h.ofResolution, checkResponse_of_unresolved h⟩
  · exact checkResponse_eq_noStatus_iff hc h
  · exact op.answers_or_silent (h.wellFormed hc) r.status
  · exact checkResponse_eq_ok_iff hc h answers
  · exact checkResponse_eq_error_iff hc h answers

/-- What is declared for the status 200: no body. -/
def petAnswer : Response := ⟨"There is a pet", []⟩

/-- What is declared for every other status: any text. -/
def petFallback : Response := ⟨"What went wrong", [(.text, .example (.string "No pets"))]⟩

/-- An operation with a response of its own for one status and a default. -/
def anyPet : Operation :=
  ⟨"Any pet", none, "pets", [], none, [(.ok, petAnswer), (.default, petFallback)]⟩

/-- The path of it. -/
def anyPetPath : PathEntry := ⟨⟨"/pet", [.const "pet"]⟩, [(.get, anyPet)]⟩

/-- A document of the path. -/
def anyPetDocument : Json :=
  .object [("openapi", .string "3.0.0"),
    ("info", .object [("version", .string "1"), ("title", .string "Pets")]),
    ("tags", .array [.object [("name", .string "pets"), ("description", .string "All pets")]]),
    ("paths", .object [("/pet", .object [("get", .object [
      ("summary", .string "Any pet"), ("tags", .array [.string "pets"]), ("parameters", .array []),
      ("responses", .object [
        ("default", .object [("description", .string "What went wrong"), ("content", .object [
          ("text/plain", .object [("example", .string "No pets")])])]),
        ("200", .object [("description", .string "There is a pet")])])])])])]

theorem ofJson_anyPetDocument : Contract.ofJson anyPetDocument = .ok ⟨[anyPetPath]⟩ := by
  have hsort : Template.sortBySpecificity PathEntry.template [anyPetPath] = [anyPetPath] :=
    List.mergeSort_singleton _
  rw [← hsort]
  rfl

/-- The operation of the path, whatever the case of the verb. -/
theorem resolves_anyPet : Contract.Resolves ⟨[anyPetPath]⟩ "Get" "/pet" anyPetPath anyPet :=
  ⟨⟨rfl, [], [], rfl, nofun⟩, .get, rfl, List.mem_cons_self⟩

/-- The status 200 is declared without a text, whatever the default is; for the status 500 it is the
default that answers; and nothing answers for another path, neither to a response nor to a
request. -/
theorem petReply_outcome :
    petAnswer.RefusesBody (fun _ _ => .ok ()) ⟨"/pet", "get"⟩ 200 (some "text/plain")
      (some "No pets") (.responseMedia "text/plain" 200 ⟨"/pet", "get"⟩) ∧
    petFallback.AdmitsBody (fun _ _ => .ok ()) (some "Text/Plain; charset=utf-8") (some "No pets") ∧
    Contract.checkRequest (fun _ _ => .ok ()) ⟨[anyPetPath]⟩ ⟨"GET", "/pets", [], none, none⟩ =
      .error (.noPath "/pets") := by
  refine ⟨?_, ?_, ?_⟩
  · have h := (Contract.checkResponse_outcome ofJson_anyPetDocument (fun _ _ => .ok ())
      ⟨"Get", "/pet", 200, some "text/plain", some "No pets"⟩).2.2 _ _ resolves_anyPet
    refine ((h.2.2 petAnswer (.exact ⟨.ok, rfl, List.mem_cons_self⟩)).2 _).1 rfl
  · have h := (Contract.checkResponse_outcome ofJson_anyPetDocument (fun _ _ => .ok ())
      ⟨"Get", "/pet", 500, some "Text/Plain; charset=utf-8", some "No pets"⟩).2.2 _ _
        resolves_anyPet
    have hnone : ∀ o ∈ anyPet.responses, o.1.name ≠ toString 500 := by decide
    exact (h.2.2 petFallback (.default hnone (.tail _ List.mem_cons_self))).1.1 rfl
  · have h := (Contract.checkResponse_outcome ofJson_anyPetDocument (fun _ _ => .ok ())
      ⟨"GET", "/pets", 404, none, none⟩).1 (.noPath "/pets") .noPath
    exact (h ⟨"GET", "/pets", [], none, none⟩ rfl rfl).1 rfl

end ApiContract
