import ApiContract.Document.Body

/-!
# Document/Operation — reading operations and their parameters

The path parameters of an operation are the variables of its path: each variable is declared, and no
other name is declared for the path.
-/

namespace ApiContract

/-- The parameter type that a schema names. -/
def ParameterType.named (p : Location) (schema : Json) : Checked ParameterType :=
  match (schema.asObject?.bind (Members.get? · "type")).bind Json.asString? with
  | some "string" => .ok .string
  | some "integer" => .ok .integer
  | some "boolean" => .ok .boolean
  | _ => refuse p (.unknownName schema.bare)

/-- The parameter type whose document a schema is, among those allowed. -/
def ParameterType.ofJson (p : Location) (allowed : List ParameterType) (schema : Json) :
    Checked ParameterType := do
  schema.checkOneOf p (allowed.map document)
  named p schema

/-- Where a parameter stands, whether it is required and its type. -/
def Parameter.placeOf (p : Location) (ms : Members) :
    Checked (ParameterPlace × Bool × ParameterType) := do
  let place ← ms.fetch p "in"
  match place.asString? with
  | some "path" =>
    if (← ms.fetch p "required").asBool? ≠ some true then
      refuse ((p.member "in").reading "path") .optionalPathParameter
    else
      let schema ← ms.fetch p "schema"
      let type ← ParameterType.ofJson ((p.member "in").reading "schema") [.string, .integer] schema
      return (.path, true, type)
  | some "query" =>
    let required ← (← ms.fetch p "required").expectFlag ((p.member "query").reading "required")
    let schema ← ms.fetch p "schema"
    let type ← ParameterType.ofJson ((p.member "query").reading "schema")
      [.string, .integer, .boolean] schema
    return (.query, required, type)
  | _ => refuse (p.member "in") (.unknownParameterPlace place)

/-- Read a parameter. -/
def Parameter.ofJson (p : Location) (v : Json) : Checked Parameter := do
  let ms ← v.expectObject p
  ms.checkKeys p ["name", "in", "description", "required", "schema"] []
  let name := (← ms.fetch p "name").bare
  let description := (← ms.fetch p "description").bare
  let (place, required, type) ← placeOf p ms
  return { name, place, description, required, type }

namespace Operation

/-- The declared path parameters are the variables of the path, as sets. -/
def checkPathParameters (p : Location) (t : Template) (parameters : List Parameter) :
    Checked Unit :=
  let declared := (parameters.filter (·.place = .path)).map (·.name)
  let missing := t.variableNames.filter fun name => !declared.contains name
  let unknown := declared.filter fun name => !t.variableNames.contains name
  if missing ≠ [] then refuse (p.member "parameters") (.missingPathParameters missing)
  else if unknown ≠ [] then refuse (p.member "parameters") (.unknownPathParameters unknown)
  else .ok ()

/-- The one tag of an operation, declared by the document. -/
def tagOf (p : Location) (tags : List String) (v : Json) : Checked String :=
  match v with
  | .array [tag] =>
    if tags.contains tag.bare then .ok tag.bare
    else refuse ((p.member "tags").reading tag.bare) .undeclaredTag
  | _ => refuse (p.member "tags") .notOneTag

/-- The parameters of an operation. -/
def parametersOf (p : Location) : Option Json → Checked (List Parameter)
  | none => .ok []
  | some v => do
    (← v.expectArray (p.member "parameters")).zipIdx.mapM fun (q, i) =>
      Parameter.ofJson ((p.member "parameters").element i) q

/-- The request body of an operation. -/
def requestBodyOf (components : Components) (p : Location) :
    Option Json → Checked (Option RequestBody)
  | none => .ok none
  | some v => (RequestBody.ofJson components (p.member "requestBody") v).map some

/-- The responses of an operation. -/
def responsesOf (components : Components) (p : Location) (v : Json) :
    Checked (List (Status × Response)) := do
  let entries ← (← v.expectObject p).mapM fun (name, v) => do
    let status ← readName (p.member name) Status.name Status.all Status.parse? name
    return (status, ← Response.ofJson components (p.member name) v)
  return Keyed.ofList entries

/-- Read an operation of a path. -/
def ofJson (components : Components) (tags : List String) (t : Template) (p : Location) (v : Json) :
    Checked Operation := do
  let ms ← v.expectObject p
  ms.checkKeys p ["responses", "summary", "tags"] ["description", "requestBody", "parameters"]
  let description ← Json.expectOptionalText (p.member "description") (ms.get? "description")
  let summary ← Json.expectOptionalText (p.member "summary") (ms.get? "summary")
  let tag ← tagOf p tags (← ms.fetch p "tags")
  let parameters ← parametersOf p (ms.get? "parameters")
  checkPathParameters p t parameters
  let requestBody ← requestBodyOf components p (ms.get? "requestBody")
  let responses ← responsesOf components (p.member "responses") (← ms.fetch p "responses")
  return { summary := summary.getD "", description, tag, parameters, requestBody, responses }

end Operation

end ApiContract
