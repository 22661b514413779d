import ApiContract.Schema.Basic

/-!
# Schema/Rendering — a canonical schema as a JSON-Schema document

The document is in the fourth draft of JSON Schema, whose keywords say all that a canonical schema
says.  Properties and required names are in ascending order, and `required` is absent where it would
be empty, which the draft forbids.
-/

namespace ApiContract.Schema

/-- The `type` keyword: one name, or the name and null. -/
def typeKeyword (name : String) (acceptsNull : Bool) : String × Json :=
  ("type", if acceptsNull then .array [.string name, .string "null"] else .string name)

/-- The `enum` keyword, where there are members. -/
def enumKeyword {α : Type} (value : α → Json) : Option (List α) → List (String × Json)
  | some members => [("enum", .array (members.map value))]
  | none => []

/-- The keywords of a primitive value. -/
def choiceKeywords {α : Type} (name : String) (value : α → Json) (rules : Choice α) :
    List (String × Json) :=
  typeKeyword name rules.acceptsNull :: enumKeyword value rules.members

/-- The keywords of a string. -/
def stringKeywords (rules : StringRules) : List (String × Json) :=
  choiceKeywords "string" .string rules.toChoice
    ++ (rules.pattern.map fun p => ("pattern", Json.string p)).toList
    ++ (rules.minLength.map fun n => ("minLength", Json.ofUnsigned n)).toList

/-- The `required` keyword, where there are names. -/
def requiredKeyword (names : List String) : List (String × Json) :=
  if names = [] then [] else [("required", .array (names.map .string))]

mutual

/-- The document of a schema. -/
def render : Schema → Json
  | object properties required additional => .object <|
      [("type", .string "object"), ("properties", .object (renderProperties properties))]
        ++ requiredKeyword required ++ [("additionalProperties", renderAdditional additional)]
  | array items => .object [("type", .string "array"), ("items", render items)]
  | string rules => .object (stringKeywords rules)
  | integer rules => .object (choiceKeywords "integer" Json.ofSigned rules)
  | boolean rules => .object (choiceKeywords "boolean" .bool rules)
  | float rules => .object (choiceKeywords "number" (fun x => .number (.float x)) rules)
  | null => .object [("type", .string "null")]
  | oneOf branches => .object [("oneOf", .array (renderAll branches))]

/-- The documents of the properties. -/
def renderProperties : List (String × Schema) → List (String × Json)
  | [] => []
  | (name, s) :: rest => (name, render s) :: renderProperties rest

/-- A flag, or the document of the schema for whatever else there is. -/
def renderAdditional : Additional Schema → Json
  | .allowed flag => .bool flag
  | .schema s => render s

/-- The documents of the branches. -/
def renderAll : List Schema → List Json
  | [] => []
  | s :: rest => render s :: renderAll rest

end

end ApiContract.Schema
