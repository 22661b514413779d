import ApiContract.Json.Basic

/-!
# Schema/Basic — body schemas in canonical form

A canonical schema has no references and no `nullable`: a value that accepts null says so in its
rules, an object or array that does is a union with the null schema.
-/

namespace ApiContract

/-- What an object allows beside its declared properties. -/
inductive Additional (σ : Type) where
  /-- Anything or nothing. -/
  | allowed (flag : Bool)
  /-- Whatever conforms to a schema. -/
  | schema (s : σ)
  deriving DecidableEq

/-- The rules of a primitive value: whether null does too, and which values there are. -/
structure Choice (α : Type) where
  acceptsNull : Bool := false
  members : Option (List α) := none
  deriving DecidableEq

/-- The rules of a string. -/
structure StringRules extends Choice String where
  pattern : Option String := none
  minLength : Option Unsigned64 := none
  deriving DecidableEq

/-- A canonical schema. -/
inductive Schema where
  | object (properties : List (String × Schema)) (required : List String)
    (additional : Additional Schema)
  | array (items : Schema)
  | string (rules : StringRules)
  | integer (rules : Choice Signed64)
  | boolean (rules : Choice Bool)
  | float (rules : Choice Binary64)
  | null
  | oneOf (branches : List Schema)

namespace Schema

instance : Inhabited Schema := ⟨null⟩

/-- The schema that also accepts null. -/
def orNull : Schema → Schema
  | string rules => string { rules with acceptsNull := true }
  | integer rules => integer { rules with acceptsNull := true }
  | boolean rules => boolean { rules with acceptsNull := true }
  | float rules => float { rules with acceptsNull := true }
  | null => null
  | s => oneOf [s, null]

end Schema

end ApiContract
