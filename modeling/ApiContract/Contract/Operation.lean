import ApiContract.Contract.Media
import ApiContract.Contract.Method
import ApiContract.Contract.Status
import ApiContract.Keyed
import ApiContract.Path.Template
import ApiContract.Schema.Basic

/-!
# Contract/Operation — what a document promises of each operation

A contract lists paths in the order requests are matched against them, each with its operations.
Maps are kept in the order of their keys, so two contracts that say the same are equal.
-/

namespace ApiContract

/-- Where a parameter stands. -/
inductive ParameterPlace where
  | path | query
  deriving DecidableEq

/-- The type of a parameter's value. -/
inductive ParameterType where
  | string | integer | boolean
  deriving DecidableEq

/-- A declared parameter. -/
structure Parameter where
  name : String
  place : ParameterPlace
  description : String
  required : Bool
  type : ParameterType
  deriving DecidableEq

/-- A declared request body. -/
structure RequestBody where
  description : String
  required : Bool
  content : List (Media × Schema)

/-- What a response of one media type holds. -/
inductive Content where
  /-- A JSON body that conforms to a schema. -/
  | schema (s : Schema)
  /-- Any text, such as the example. -/
  | example (value : Json)

/-- A declared response. -/
structure Response where
  description : String
  content : List (Media × Content)

/-- A declared operation. -/
structure Operation where
  summary : String
  description : Option String
  tag : String
  parameters : List Parameter
  requestBody : Option RequestBody
  responses : List (Status × Response)

/-- A path and its operations. -/
structure PathEntry where
  template : Template
  operations : List (Method × Operation)

/-- All that a document promises. -/
structure Contract where
  paths : List PathEntry

namespace ParameterType

/-- The name of a type in a document. -/
def name : ParameterType → String
  | string => "string"
  | integer => "integer"
  | boolean => "boolean"

/-- The schema of a type in a document. -/
def document (t : ParameterType) : Json := .object [("type", .string t.name)]

/-- The canonical schema of a type. -/
def schema : ParameterType → Schema
  | string => .string {}
  | integer => .integer {}
  | boolean => .boolean {}

end ParameterType

/-- The name of a place in a document. -/
def ParameterPlace.name : ParameterPlace → String
  | path => "path"
  | query => "query"

namespace Operation

/-- The first parameter of a name. -/
def parameter? (op : Operation) (name : String) : Option Parameter :=
  op.parameters.find? (·.name == name)

/-- The names of the required parameters, in order. -/
def requiredParameters (op : Operation) : List String :=
  (op.parameters.filter (·.required)).map (·.name)

/-- The response declared for a status: its own, else the default. -/
def responseFor? (op : Operation) (status : Nat) : Option Response :=
  ((Status.ofCode? status).bind (Keyed.get? · op.responses)).orElse fun _ =>
    Keyed.get? .default op.responses

end Operation

end ApiContract
