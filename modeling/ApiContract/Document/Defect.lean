import ApiContract.Json.Printer

/-!
# Document/Defect — what is wrong with a specification, and where

A document is refused at its first defect: a location and a cause.  Locations read from the root,
`:` before the name of a member, `[…]` around the index of an element or the case a check was made
for.
-/

namespace ApiContract

/-- A place in a document, as it is named in messages. -/
abbrev Location := String

namespace Location

/-- The member of a place. -/
def member (p : Location) (key : String) : Location := p ++ (":" ++ key)

/-- An element of a place. -/
def element (p : Location) (i : Nat) : Location := p ++ ("[" ++ toString i ++ "]")

/-- The place, read as one case of what may stand there. -/
def reading (p : Location) (label : String) : Location := p ++ ("[" ++ label ++ "]")

end Location

/-- What an enumeration lists. -/
inductive EnumKind where
  | strings | integers | booleans | numbers
  deriving DecidableEq

/-- The word for what an enumeration lists. -/
def EnumKind.text : EnumKind → String
  | strings => "strings"
  | integers => "integers"
  | booleans => "booleans"
  | numbers => "numbers"

/-- Why a part of a document is refused. -/
inductive Defect.Cause where
  /-- The value is no object. -/
  | notObject
  /-- The value is no array. -/
  | notArray
  /-- Required keys are not there. -/
  | missingKeys (keys : List String)
  /-- Keys nobody asked for. -/
  | unknownKeys (keys : List String)
  /-- A value outside a list of allowed ones. -/
  | valueNotAllowed (found : Json) (allowed : List Json)
  /-- A name outside a list of allowed ones. -/
  | nameNotAllowed (found : String) (allowed : List String)
  /-- A text that names nothing. -/
  | unknownName (found : String)
  /-- A value other than the one text that may stand here. -/
  | notText (expected : String) (found : Json)
  /-- A value that is neither null nor a string. -/
  | notOptionalText (found : Json)
  /-- A path template outside the grammar. -/
  | badTemplate
  /-- A schema without `type`. -/
  | noType
  /-- A schema whose `type` is not known. -/
  | unknownType (found : Json)
  /-- A reference that is not to a component schema. -/
  | badReference
  /-- A reference to a component that is not declared. -/
  | unknownComponent (name : String)
  /-- Required properties that are not declared. -/
  | undeclaredRequired (names : List String)
  /-- An enumeration with a member of another kind. -/
  | notArrayOf (kind : EnumKind)
  /-- The value is no string. -/
  | notString
  /-- The value is no length. -/
  | notLength
  /-- The value is no flag. -/
  | notFlag
  /-- An operation without exactly one tag. -/
  | notOneTag
  /-- A tag that the document does not declare. -/
  | undeclaredTag
  /-- Variables of the path that no parameter declares. -/
  | missingPathParameters (names : List String)
  /-- Path parameters that are no variable of the path. -/
  | unknownPathParameters (names : List String)
  /-- A path parameter that is not required. -/
  | optionalPathParameter
  /-- A parameter that is neither in the path nor in the query. -/
  | unknownParameterPlace (found : Json)
  /-- A member was taken that is not there: no check had promised it. -/
  | absentMember (key : String)
  deriving DecidableEq

/-- A refused part of a document. -/
structure Defect where
  location : Location
  cause : Defect.Cause
  deriving DecidableEq

/-- What a check of a document yields. -/
abbrev Checked (α : Type) := Except Defect α

namespace Checked

variable {α β : Type}

/-- One check after another passes when both do, whatever they are told with otherwise. -/
theorem bind_eq_ok {ε : Type} {x : Except ε α} {f : α → Except ε β} {b : β} :
    (x >>= f) = .ok b ↔ ∃ a, x = .ok a ∧ f a = .ok b := by
  cases x <;> simp [bind, Except.bind]

/-- A result is passed on as it is. -/
theorem pure_eq_ok {ε : Type} {a b : α} : (pure a : Except ε α) = .ok b ↔ a = b := by
  simp [pure, Except.pure]

/-- A mapped check passes when the check does. -/
theorem map_eq_ok {ε : Type} {x : Except ε α} {f : α → β} {b : β} :
    x.map f = .ok b ↔ ∃ a, x = .ok a ∧ f a = b := by
  cases x <;> simp [Except.map]

end Checked

namespace Defect

/-- The grammar of path templates, as it is quoted in messages. -/
def pathGrammar : String := "^(/(\\\x7b?[a-zA-Z0-9_]+\\\x7d?)?)+$"

/-- The wording of a cause. -/
def Cause.text : Cause → String
  | notObject => "should be hash"
  | notArray => "should be array"
  | missingKeys keys => "missed required keys " ++ quotedList keys
  | unknownKeys keys => "unknown keys " ++ quotedList keys
  | valueNotAllowed found allowed =>
    "unknown \"" ++ found.bare ++ "\", allow to use [" ++
      ", ".intercalate (allowed.map Json.compact) ++ "]"
  | nameNotAllowed found allowed =>
    "unknown \"" ++ found ++ "\", allow to use " ++ quotedList allowed
  | unknownName found => "unknown \"" ++ found ++ "\""
  | notText expected found => "expect \"" ++ expected ++ "\" but get \"" ++ found.bare ++ "\""
  | notOptionalText found => "expect nil or string, but \"" ++ found.bare ++ "\""
  | badTemplate => "expect match \"" ++ pathGrammar ++ "\""
  | noType => "missed type"
  | unknownType found => "unknown type \"" ++ found.bare ++ "\""
  | badReference => "should have form \"#/components/schemas/ComponentName\""
  | unknownComponent name => "unknown component \"" ++ name ++ "\""
  | undeclaredRequired names =>
    "\"" ++ quotedList names ++ "\" are required but not descipted in properties section"
  | notArrayOf kind => "should be array of " ++ kind.text
  | notString => "should be string"
  | notLength => "should be non-negative integer"
  | notFlag => "should be boolean"
  | notOneTag => "should be array with one element"
  | undeclaredTag => "is not descripted in \"tags\" section of schema"
  | missingPathParameters names => "missed path params " ++ quotedList names
  | unknownPathParameters names => "unknown path params " ++ quotedList names
  | optionalPathParameter => "required should be true"
  | unknownParameterPlace found =>
    "unknown value \"" ++ found.bare ++ "\", allow to use [\"path\", \"query\"]"
  | absentMember key => "no member \"" ++ key ++ "\""

/-- The wording of a defect without its location. -/
def detail (d : Defect) : String := d.cause.text

/-- The whole message. -/
def message (d : Defect) : String := "Broken schema: \"" ++ d.location ++ "\" " ++ d.detail

end Defect

end ApiContract
