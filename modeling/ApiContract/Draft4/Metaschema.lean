import ApiContract.Json.Printer
import ApiContract.Pattern.Script

/-!
# Draft4/Metaschema — which documents are schemas of the fourth draft

`fault?` is the first fault the metaschema of the draft finds in a document, for the keywords that
are understood here.  Where the metaschema offers alternatives, for `items` and for a schema under
`additionalProperties`, a fault below is told as a fault of the whole value.
-/

namespace ApiContract.Draft4

/-- Why a document is no schema. -/
inductive SchemaFault where
  /-- A union without branches. -/
  | emptyUnion
  /-- A text that is no pattern. -/
  | badPattern (text : String)
  /-- A value that fits none of the alternatives for it. -/
  | noAlternative (value : Json)
  /-- A keyword whose value is of the wrong form. -/
  | malformed (keyword : String)
  deriving DecidableEq

/-- The wording of a fault. -/
def SchemaFault.text : SchemaFault → String
  | emptyUnion => "[] has less than 1 item"
  | badPattern text => Json.quoted text ++ " is not a \"regex\""
  | noAlternative value =>
    value.compact ++ " is not valid under any of the schemas listed in the 'anyOf' keyword"
  | malformed keyword => "the value of \"" ++ keyword ++ "\" is malformed"

/-- The names of types. -/
def typeNames : List String := ["array", "boolean", "integer", "null", "number", "object", "string"]

/-- The strings of an array of strings. -/
def stringItems? (v : Json) : Option (List String) := v.asArray?.bind (·.mapM Json.asString?)

/-- Strings, at least one and each once. -/
def isNameList (v : Json) : Bool :=
  match stringItems? v with
  | some names => !names.isEmpty && names.eraseDups.length == names.length
  | none => false

/-- The value of a `type` keyword: a name, or some names, each once. -/
def isTypeValue : Json → Bool
  | .string name => typeNames.contains name
  | v => isNameList v && ((stringItems? v).getD []).all typeNames.contains

/-- A fault of a keyword whose value holds no schemas. -/
def plainFault? (keyword : String) (v : Json) : Option SchemaFault :=
  let expect (good : Bool) : Option SchemaFault := if good then none else some (.malformed keyword)
  match keyword with
  | "type" => expect (isTypeValue v)
  | "required" => expect (isNameList v)
  | "enum" => expect v.asArray?.isSome
  | "minLength" => expect v.asUnsigned?.isSome
  | "pattern" => match v with
    | .string text => if (Pattern.respell? text).isSome then none else some (.badPattern text)
    | _ => some (.malformed keyword)
  | _ => none

/-- The order in which the metaschema looks at keywords. -/
def keywordOrder : List String :=
  ["additionalProperties", "enum", "items", "minLength", "oneOf", "pattern", "properties",
    "required", "type"]

mutual

/-- The first fault of a document. -/
def fault? : Json → Option SchemaFault
  | .object ms =>
    let faults := keywordFaults ms
    keywordOrder.findSome? fun keyword => faults.lookup keyword
  | _ => some (.malformed "$schema")

/-- The fault of each keyword that has one. -/
def keywordFaults : List (String × Json) → List (String × SchemaFault)
  | [] => []
  | (keyword, v) :: rest =>
    ((keywordFault? keyword v).map fun f => (keyword, f)).toList ++ keywordFaults rest

/-- The fault of a keyword. -/
def keywordFault? (keyword : String) : Json → Option SchemaFault
  | .array items =>
    if keyword = "oneOf" then
      if items.isEmpty then some .emptyUnion else firstFault? items
    else if keyword = "items" then
      if items.isEmpty ∨ (firstFault? items).isSome then some (.noAlternative (.array items))
      else none
    else if keyword = "additionalProperties" then some (.noAlternative (.array items))
    else if keyword = "properties" then some (.malformed keyword)
    else plainFault? keyword (.array items)
  | .object ms =>
    if keyword = "properties" then firstMemberFault? ms
    else if keyword = "items" ∨ keyword = "additionalProperties" then
      let faults := keywordFaults ms
      (keywordOrder.findSome? fun k => faults.lookup k).map fun _ => .noAlternative (.object ms)
    else if keyword = "oneOf" then some (.malformed keyword)
    else plainFault? keyword (.object ms)
  | v =>
    if keyword = "additionalProperties" ∧ v.asBool?.isSome then none
    else if keyword = "items" ∨ keyword = "additionalProperties" then some (.noAlternative v)
    else if keyword = "oneOf" ∨ keyword = "properties" then some (.malformed keyword)
    else plainFault? keyword v

/-- The first fault among documents. -/
def firstFault? : List Json → Option SchemaFault
  | [] => none
  | v :: rest => (fault? v).or (firstFault? rest)

/-- The first fault among the documents of members. -/
def firstMemberFault? : List (String × Json) → Option SchemaFault
  | [] => none
  | (_, v) :: rest => (fault? v).or (firstMemberFault? rest)

end

end ApiContract.Draft4
