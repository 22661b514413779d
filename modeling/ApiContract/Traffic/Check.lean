import ApiContract.Draft4.Evaluator
import ApiContract.Json.Reader
import ApiContract.Path.Route
import ApiContract.Traffic.Parameters
import ApiContract.Traffic.Rejection

/-!
# Traffic/Check — checking requests and responses against a contract

The path is routed first, then the method names the operation.  A request's parameters are checked
one by one and then as a set; a body is only looked at if it is not empty, and JSON bodies go to an
evaluator.
-/

namespace ApiContract

/-- A request as it was received. -/
structure Request where
  method : String
  path : String
  query : List (String × String) := []
  contentType : Option String := none
  body : Option String := none

/-- A response as it is about to be sent, with the method and the path it answers. -/
structure Reply where
  method : String
  path : String
  status : Nat
  contentType : Option String := none
  body : Option String := none

/-- The operation an exchange belongs to, and the values of the path variables. -/
structure Resolved where
  operation : Operation
  parameters : List (String × String)
  exchange : Exchange

/-- What a check yields. -/
abbrev Verdict (α : Type) := Except Rejection α

/-- The operation of a path and a method. -/
def Contract.resolve (c : Contract) (method path : String) : Verdict Resolved :=
  match route? PathEntry.template c.paths path with
  | none => .error (.noPath path)
  | some route =>
    let x : Exchange := ⟨path, Text.lowerCase method⟩
    match (Method.parse? x.method).bind (Keyed.get? · route.entry.operations) with
    | none => .error (.noOperation x)
    | some operation => .ok ⟨operation, route.parameters, x⟩

/-- The body that counts: one that is not empty. -/
def presentBody (body : Option String) : Option String := body.filter fun b => !b.isEmpty

/-- Read a body as JSON and evaluate it; the reason if either fails. -/
def evaluateBody (evaluate : Evaluator) (s : Schema) (body : String) : Except String Unit :=
  match Json.read body with
  | .error e => .error e.text
  | .ok v => evaluate s v

/-- One parameter is declared, and its value is of the type declared first under its name. -/
def checkParameter (op : Operation) (x : Exchange) (name value : String) : Verdict Unit :=
  match op.parameter? name with
  | none => .error (.unknownParameter name x)
  | some q =>
    if q.type.admits value then .ok ()
    else .error (match q.type with
      | .boolean => .notBoolean name value x
      | _ => .notInteger name value x)

/-- The parameters of a request, one by one and then the required ones as a set. -/
def checkParameters (op : Operation) (x : Exchange) (parameters : List (String × String)) :
    Verdict Unit := do
  parameters.forM fun q => checkParameter op x q.1 q.2
  let missing := op.requiredParameters.filter fun name => !parameters.any (·.1 == name)
  if missing ≠ [] then .error (.missingParameters missing x) else .ok ()

/-- The body of a request. -/
def checkRequestBody (evaluate : Evaluator) (op : Operation) (x : Exchange)
    (contentType body : Option String) : Verdict Unit :=
  match presentBody body with
  | none =>
    if op.requestBody.any (·.required) then .error (.bodyMissing x) else .ok ()
  | some body =>
    let (essence, media) := Media.normalize (contentType.getD "")
    match op.requestBody with
    | none => .error (.bodyUndeclared essence x)
    | some declared => match media.bind (Keyed.get? · declared.content) with
      | none => .error (.bodyMedia essence x)
      | some s => (evaluateBody evaluate s body).mapError fun reason => .bodyBroken reason x

/-- **Check a request.** -/
def Contract.checkRequest (evaluate : Evaluator) (c : Contract) (r : Request) : Verdict Unit := do
  let resolved ← c.resolve r.method r.path
  checkParameters resolved.operation resolved.exchange (mergeParameters resolved.parameters r.query)
  checkRequestBody evaluate resolved.operation resolved.exchange r.contentType r.body

/-- The body of a response that is declared. -/
def checkResponseBody (evaluate : Evaluator) (declared : Response) (x : Exchange) (status : Nat)
    (contentType body : Option String) : Verdict Unit :=
  match presentBody body with
  | none => .ok ()
  | some body =>
    let (essence, media) := Media.normalize (contentType.getD "")
    match media.bind (Keyed.get? · declared.content) with
    | none => .error (.responseMedia essence status x)
    | some (.example _) => .ok ()
    | some (.schema s) =>
      (evaluateBody evaluate s body).mapError fun reason => .responseBroken reason essence status x

/-- **Check a response.** -/
def Contract.checkResponse (evaluate : Evaluator) (c : Contract) (r : Reply) : Verdict Unit := do
  let resolved ← c.resolve r.method r.path
  match resolved.operation.responseFor? r.status with
  | none => .error (.noStatus r.status resolved.exchange)
  | some declared =>
    checkResponseBody evaluate declared resolved.exchange r.status r.contentType r.body

end ApiContract
