import ApiContract.Draft4.Rule

/-!
# Draft4/Violation — where an instance breaks the rules of a schema

`violations` lists every violation in the order of the rules, each with the JSON pointer of the
value it is about.  Numbers are equal to members of an enumeration by their exact values, and only a
literal without point and exponent is an integer.
-/

namespace ApiContract

namespace Json

mutual

/-- Equality of instances: numbers by value, objects without regard to order. -/
def equal : Json → Json → Bool
  | null, null => true
  | bool a, bool b => a == b
  | number a, number b => a.toRat == b.toRat
  | string a, string b => a == b
  | array a, array b => equalItems a b
  | object a, object b => a.length == b.length && equalMembers a b
  | _, _ => false

/-- Element by element. -/
def equalItems : List Json → List Json → Bool
  | [], [] => true
  | x :: a, y :: b => equal x y && equalItems a b
  | _, _ => false

/-- Every member of the first list has its equal under the same key of the second. -/
def equalMembers : List (String × Json) → Members → Bool
  | [], _ => true
  | (k, x) :: a, b =>
    (match b.get? k with | some y => equal x y | none => false) && equalMembers a b

end

end Json

namespace Draft4

/-- A violation of a schema. -/
structure Violation where
  pointer : String
  message : String
  deriving DecidableEq

/-- A violation with its place. -/
def Violation.text (x : Violation) : String := "#" ++ x.pointer ++ ": " ++ x.message

/-- A key as a step of a JSON pointer. -/
def escapeKey (key : String) : String :=
  String.ofList (key.toList.flatMap fun c =>
    if c = '~' then ['~', '0'] else if c = '/' then ['~', '1'] else [c])

/-- The pointer of a member or an element. -/
def pointerTo (pointer step : String) : String := pointer ++ "/" ++ step

/-- Whether an instance has a type. -/
def hasType (v : Json) (name : String) : Bool :=
  match name, v with
  | "null", .null | "boolean", .bool _ | "string", .string _ | "array", .array _
  | "object", .object _ | "number", .number _ | "integer", .number (.int _ _) => true
  | _, _ => false

/-- Texts in ascending order. -/
def ascending (names : List String) : List String := names.mergeSort fun a b => a ≤ b

/-- The complaint about a type. -/
def typeMessage (v : Json) (names : List String) : String :=
  match names with
  | [name] => v.compact ++ " is not of type " ++ Json.quoted name
  | names =>
    v.compact ++ " is not of types " ++ ", ".intercalate ((ascending names).map Json.quoted)

/-- The complaint about members that are not declared. -/
def undeclaredMessage (names : List String) : String :=
  "Additional properties are not allowed (" ++
    ", ".intercalate (names.map fun n => "'" ++ n ++ "'") ++
    (if names.length = 1 then " was unexpected)" else " were unexpected)")

/-- The members of an instance, none if it is no object. -/
def instanceMembers (v : Json) : Members := v.asObject?.getD []

/-- A violation at a pointer unless a condition holds. -/
def demand (holds : Bool) (pointer : String) (message : String) : List Violation :=
  if holds then [] else [⟨pointer, message⟩]

mutual

/-- The violations of one rule by the instance at a pointer. -/
def ruleViolations (pointer : String) (v : Json) : Rule → List Violation
  | .type names => demand (names.any (hasType v)) pointer (typeMessage v names)
  | .enum values =>
    demand (values.any v.equal) pointer
      (v.compact ++ " is not one of " ++ (Json.array values).compact)
  | .pattern text p => match v, p with
    | .string s, some p => match p.search s with
      | .ok found => demand found pointer (v.compact ++ " does not match \"" ++ text ++ "\"")
      | .error f => [⟨pointer, f.message⟩]
    | _, _ => []
  | .minLength n => match v with
    | .string s =>
      demand (n ≤ s.length) pointer
        (v.compact ++ " is shorter than " ++ toString n ++
          (if n = 1 then " character" else " characters"))
    | _ => []
  | .required names => match v with
    | .object ms => names.flatMap fun name =>
        demand (Members.has ms name) pointer (Json.quoted name ++ " is a required property")
    | _ => []
  | .properties declared => propertyViolations pointer (instanceMembers v) declared
  | .members declared others =>
    let ms := instanceMembers v
    let undeclared := ms.keys.filter fun key => (declared.lookup key).isNone
    let own (key : String) (x : Json) :=
      memberViolations (pointerTo pointer (escapeKey key)) x key declared
    match others with
    | none => ms.flatMap (fun m => own m.1 m.2)
        ++ demand undeclared.isEmpty pointer (undeclaredMessage undeclared)
    | some rules => ms.flatMap fun m =>
        if (declared.lookup m.1).isSome then own m.1 m.2
        else violations (pointerTo pointer (escapeKey m.1)) m.2 rules
  | .items rules => match v with
    | .array items =>
      items.zipIdx.flatMap fun x => violations (pointerTo pointer (toString x.2)) x.1 rules
    | _ => []
  | .oneOf branches => match keptBranches v branches with
    | 0 =>
      [⟨pointer,
        v.compact ++ " is not valid under any of the schemas listed in the 'oneOf' keyword"⟩]
    | 1 => []
    | _ =>
      [⟨pointer,
        v.compact ++ " is valid under more than one of the schemas listed in the 'oneOf' keyword"⟩]

/-- **The violations of rules**, in their order. -/
def violations (pointer : String) (v : Json) : List Rule → List Violation
  | [] => []
  | rule :: rules => ruleViolations pointer v rule ++ violations pointer v rules

/-- The violations of the declared members that are there, in the order of declaration. -/
def propertyViolations (pointer : String) (ms : Members) :
    List (String × List Rule) → List Violation
  | [] => []
  | (name, rules) :: declared =>
    (match ms.get? name with
      | some x => violations (pointerTo pointer (escapeKey name)) x rules
      | none => []) ++ propertyViolations pointer ms declared

/-- The violations of the rules declared for a key. -/
def memberViolations (pointer : String) (x : Json) (key : String) :
    List (String × List Rule) → List Violation
  | [] => []
  | (name, rules) :: declared =>
    if key == name then violations pointer x rules else memberViolations pointer x key declared

/-- How many of the branches an instance keeps. -/
def keptBranches (v : Json) : List (List Rule) → Nat
  | [] => 0
  | rules :: branches =>
    (if (violations "" v rules).isEmpty then 1 else 0) + keptBranches v branches

end

end Draft4

end ApiContract
