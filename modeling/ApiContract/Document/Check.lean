import ApiContract.Document.Defect

/-!
# Document/Check — the checks every part of a document is made of

A part says which keys it needs and which it tolerates, which values or names may stand in a place,
and which kind of value it expects.  Each check names its own cause, so every refusal is worded in
one place.
-/

namespace ApiContract

/-- Refuse a place for a cause. -/
def refuse {α : Type} (p : Location) (cause : Defect.Cause) : Checked α := .error ⟨p, cause⟩

namespace Members

/-- The members have every required key, and none beside those and the optional ones.  Missing keys
are told first, in the order they are asked for; then the unknown ones, in document order. -/
def checkKeys (p : Location) (ms : Members) (required optional : List String) : Checked Unit :=
  let missing := required.filter fun key => !ms.has key
  let unknown := ms.keys.filter fun key => !required.contains key && !optional.contains key
  if missing ≠ [] then refuse p (.missingKeys missing)
  else if unknown ≠ [] then refuse p (.unknownKeys unknown)
  else .ok ()

/-- The value under a key that an earlier check has promised. -/
def fetch (p : Location) (ms : Members) (key : String) : Checked Json :=
  match ms.get? key with
  | some v => .ok v
  | none => refuse p (.absentMember key)

end Members

namespace Json

/-- The members of an object. -/
def expectObject (p : Location) : Json → Checked Members
  | object ms => .ok ms
  | _ => refuse p .notObject

/-- The elements of an array. -/
def expectArray (p : Location) : Json → Checked (List Json)
  | array items => .ok items
  | _ => refuse p .notArray

/-- A string, or nothing for an absent value and for null. -/
def expectOptionalText (p : Location) : Option Json → Checked (Option String)
  | none | some null => .ok none
  | some (string s) => .ok (some s)
  | some v => refuse p (.notOptionalText v)

/-- The value is one of those allowed. -/
def checkOneOf (p : Location) (allowed : List Json) (v : Json) : Checked Unit :=
  if allowed.any (·.same v) then .ok () else refuse p (.valueNotAllowed v allowed)

/-- A flag, told with the two values it may have. -/
def expectFlag (p : Location) (v : Json) : Checked Bool := do
  v.checkOneOf p [.bool true, .bool false]
  return v.asBool?.getD false

/-- The value is this very string. -/
def checkText (p : Location) (expected : String) (v : Json) : Checked Unit :=
  if v.asString? = some expected then .ok () else refuse p (.notText expected v)

end Json

/-- The name is one of those allowed. -/
def checkName (p : Location) (allowed : List String) (name : String) : Checked Unit :=
  if allowed.contains name then .ok () else refuse p (.nameNotAllowed name allowed)

/-- The key of a name, one of those allowed.  The reader of the keys may take more spellings than
the list of names has. -/
def readName {κ : Type} (p : Location) (name : κ → String) (all : List κ)
    (parse? : String → Option κ) (s : String) : Checked κ := do
  checkName p (all.map name) s
  match parse? s with
  | some key => return key
  | none => refuse p (.unknownName s)

end ApiContract
