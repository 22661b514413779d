import ApiContract.Contract.Operation
import ApiContract.Schema.Rendering

/-!
# Contract/Dump — a contract as a JSON document

The dump says everything a contract does, in the contract's own order; body schemas stand in it as
JSON-Schema documents.  What an operation does not declare is left out.
-/

namespace ApiContract

/-- A piece of a template. -/
def Segment.dump : Segment → Json
  | const value => .object [("kind", .string "const"), ("value", .string value)]
  | var name => .object [("kind", .string "variable"), ("name", .string name)]

/-- A template. -/
def Template.dump (t : Template) : Json :=
  .object [("original", .string t.text), ("segments", .array (t.segments.map Segment.dump))]

/-- A parameter. -/
def Parameter.dump (q : Parameter) : Json :=
  .object [("name", .string q.name), ("in", .string q.place.name),
    ("description", .string q.description), ("required", .bool q.required),
    ("schema", q.type.document)]

/-- The content of a request body or a response. -/
def dumpContent {α : Type} (value : α → Json) (content : List (Media × α)) : Json :=
  .object (content.map fun c => (c.1.name, value c.2))

/-- A request body. -/
def RequestBody.dump (b : RequestBody) : Json :=
  .object [("description", .string b.description), ("required", .bool b.required),
    ("content", dumpContent Schema.render b.content)]

/-- The content of one media type. -/
def Content.dump : Content → Json
  | schema s => s.render
  | .example value => .object [("example", value)]

/-- A response. -/
def Response.dump (r : Response) : Json :=
  .object [("description", .string r.description), ("content", dumpContent Content.dump r.content)]

/-- A member that may be absent. -/
def optionalMember {α : Type} (key : String) (value : α → Json) (x : Option α) :
    List (String × Json) :=
  (x.map fun a => (key, value a)).toList

/-- An operation. -/
def Operation.dump (op : Operation) : Json :=
  .object <| [("summary", .string op.summary)]
    ++ optionalMember "description" .string op.description
    ++ [("tag", .string op.tag), ("parameters", .array (op.parameters.map Parameter.dump))]
    ++ optionalMember "requestBody" RequestBody.dump op.requestBody
    ++ [("responses", .object (op.responses.map fun r => (r.1.name, r.2.dump)))]

/-- A path with its operations. -/
def PathEntry.dump (e : PathEntry) : Json :=
  .object [("template", e.template.dump),
    ("operations", .object (e.operations.map fun o => (o.1.name, o.2.dump)))]

/-- A contract. -/
def Contract.dump (c : Contract) : Json := .object [("paths", .array (c.paths.map PathEntry.dump))]

end ApiContract
