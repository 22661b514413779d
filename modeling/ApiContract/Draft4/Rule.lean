import ApiContract.Json.Printer
import ApiContract.Pattern.Basic
import ApiContract.Schema.Node

/-!
# Draft4/Rule — the rules a schema document sets

A document becomes the list of its rules in the order of its keywords.  `properties` and
`additionalProperties` are one rule of the members: it stands where `properties` does if other
members are free, and where `additionalProperties` does if they are not.
-/

namespace ApiContract.Draft4

/-- A rule for an instance. -/
inductive Rule where
  /-- The instance has one of the types. -/
  | type (names : List String)
  /-- The instance equals one of the values. -/
  | enum (values : List Json)
  /-- A string has the pattern in it, if the text writes one. -/
  | pattern (text : String) (p : Option Pattern)
  /-- A string has so many characters. -/
  | minLength (n : Nat)
  /-- An object has the members. -/
  | required (names : List String)
  /-- The declared members of an object keep their rules. -/
  | properties (declared : List (String × List Rule))
  /-- Every member of an object keeps its own rules or else those of the others; without such rules
  there are no others. -/
  | members (declared : List (String × List Rule)) (others : Option (List Rule))
  /-- Every element of an array keeps the rules. -/
  | items (rules : List Rule)
  /-- Exactly one of the lists of rules is kept. -/
  | oneOf (branches : List (List Rule))

/-- The rule of a keyword whose value holds no schemas. -/
def plainRule? (keyword : String) (v : Json) : Option Rule :=
  match keyword with
  | "type" => match v with
    | .string name => some (.type [name])
    | v => (v.asArray?.bind (·.mapM Json.asString?)).map .type
  | "enum" => v.asArray?.map .enum
  | "pattern" => v.asString?.map fun text => .pattern text (Pattern.ofText? text)
  | "minLength" => v.asUnsigned?.map fun n => .minLength n.1
  | "required" => (v.asArray?.bind (·.mapM Json.asString?)).map .required
  | _ => none

/-- Whether members that are not declared are free. -/
def isOpen (ms : Members) : Bool :=
  match ms.get? "additionalProperties" with
  | none | some (.bool true) => true
  | some _ => false

mutual

/-- **The rules of a document.** -/
def rulesOf : Json → List Rule
  | .object ms => match h : Members.get? ms "properties" with
    | some (.object declared) =>
      have : sizeOf declared < sizeOf ms := by
        have := Members.sizeOf_get? h
        simp at this; omega
      keywordRules (isOpen ms) (propertyRules declared) ms
    | _ => keywordRules (isOpen ms) [] ms
  | _ => []
termination_by v => (sizeOf v, 0)

/-- The rules of keywords, given those of the declared members. -/
def keywordRules (open_ : Bool) (declared : List (String × List Rule)) :
    List (String × Json) → List Rule
  | [] => []
  | (keyword, v) :: rest => keywordRule open_ declared keyword v ++ keywordRules open_ declared rest
termination_by ms => (sizeOf ms, 0)

/-- The rule of a keyword, if it sets one. -/
def keywordRule (open_ : Bool) (declared : List (String × List Rule)) (keyword : String)
    (v : Json) : List Rule :=
  if keyword = "properties" then if open_ then [.properties declared] else []
  else if keyword = "additionalProperties" then match v with
    | .bool true => []
    | .bool false => [.members declared none]
    | v => [.members declared (some (rulesOf v))]
  else if keyword = "items" then [.items (rulesOf v)]
  else if keyword = "oneOf" then match v with
    | .array branches => [.oneOf (branchRules branches)]
    | _ => []
  else (plainRule? keyword v).toList
termination_by (sizeOf v, 1)

/-- The rules of declared members. -/
def propertyRules : List (String × Json) → List (String × List Rule)
  | [] => []
  | (name, v) :: rest => (name, rulesOf v) :: propertyRules rest
termination_by ms => (sizeOf ms, 0)

/-- The rules of the branches of a union. -/
def branchRules : List Json → List (List Rule)
  | [] => []
  | v :: rest => rulesOf v :: branchRules rest
termination_by vs => (sizeOf vs, 0)

end

mutual

/-- The first text in a rule that should write a pattern and does not. -/
def Rule.badPattern? : Rule → Option String
  | .pattern text none => some text
  | .type _ | .enum _ | .pattern _ (some _) | .minLength _ | .required _ => none
  | .properties declared => badDeclaredPattern? declared
  | .members declared none => badDeclaredPattern? declared
  | .members declared (some others) => (badDeclaredPattern? declared).or (firstBadPattern? others)
  | .items rules => firstBadPattern? rules
  | .oneOf branches => badBranchPattern? branches

/-- The first text in some rules that should write a pattern and does not. -/
def firstBadPattern? : List Rule → Option String
  | [] => none
  | rule :: rules => rule.badPattern?.or (firstBadPattern? rules)

/-- The first text in the rules of declared members that should write a pattern and does not. -/
def badDeclaredPattern? : List (String × List Rule) → Option String
  | [] => none
  | (_, rules) :: declared => (firstBadPattern? rules).or (badDeclaredPattern? declared)

/-- The first text in the branches of a union that should write a pattern and does not. -/
def badBranchPattern? : List (List Rule) → Option String
  | [] => none
  | rules :: branches => (firstBadPattern? rules).or (badBranchPattern? branches)

end

end ApiContract.Draft4
