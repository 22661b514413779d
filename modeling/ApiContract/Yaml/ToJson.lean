import ApiContract.Yaml.Value

/-!
# Yaml/ToJson — YAML values as JSON values

Tags are dropped and scalar keys become their texts, so two keys with one text are refused, as are
keys that are no scalars and numbers that are not finite.  A place is told like those of a document,
the root as a slash.
-/

namespace ApiContract.Yaml

/-- Why a YAML value has no JSON form. -/
inductive ConvertError where
  /-- A number that is not finite. -/
  | notFinite (n : Number) (place : String)
  /-- A key that is null, a sequence or a mapping. -/
  | notScalarKey (place : String)
  /-- A key with the text of one before it. -/
  | duplicateKey (place : String)
  deriving DecidableEq

/-- The place as it is told. -/
def placeText (place : String) : String := if place.isEmpty then "/" else place

/-- The wording of an error. -/
def ConvertError.message : ConvertError → String
  | notFinite n place => "number " ++ n.text ++ " at \"" ++ placeText place ++ "\" has no JSON form"
  | notScalarKey place => "non-scalar mapping key at \"" ++ placeText place ++ "\""
  | duplicateKey place => "duplicate key at \"" ++ place ++ "\""

/-- The JSON form of a number. -/
def Number.toJson? : Number → Option Json
  | int n fits => some (.number (.int n fits))
  | float x => some (.number (.float x))
  | infinity _ | nan => none

/-- The text of a scalar key, whatever its tags. -/
def keyText? : Yaml → Option String
  | string s => some s
  | number n => some n.text
  | bool b => some (if b then "true" else "false")
  | tagged _ v => keyText? v
  | null | sequence _ | mapping _ => none

/-- The place of an entry of a mapping. -/
def entryPlace (place key : String) : String :=
  if place.isEmpty then "/" ++ key else place ++ (":" ++ key)

/-- The place of an element of a sequence. -/
def elementPlace (place : String) (i : Nat) : String := place ++ ("[" ++ toString i ++ "]")

mutual

/-- The JSON form of the value at a place. -/
def toJsonAt (place : String) : Yaml → Except ConvertError Json
  | null => .ok .null
  | bool b => .ok (.bool b)
  | number n => match n.toJson? with
    | some v => .ok v
    | none => .error (.notFinite n place)
  | string s => .ok (.string s)
  | sequence items => (itemsToJson place 0 items).map .array
  | mapping entries => (entriesToJson place [] entries).map .object
  | tagged _ v => toJsonAt place v

/-- The JSON forms of elements from index `i` on. -/
def itemsToJson (place : String) (i : Nat) : List Yaml → Except ConvertError (List Json)
  | [] => .ok []
  | v :: rest => do
    let x ← toJsonAt (elementPlace place i) v
    return x :: (← itemsToJson place (i + 1) rest)

/-- The members of entries, after those with the keys `seen`. -/
def entriesToJson (place : String) (seen : List String) :
    List (Yaml × Yaml) → Except ConvertError Members
  | [] => .ok []
  | (k, v) :: rest => match keyText? k with
    | none => .error (.notScalarKey place)
    | some key =>
      if seen.contains key then .error (.duplicateKey (entryPlace place key)) else do
        let x ← toJsonAt (entryPlace place key) v
        return (key, x) :: (← entriesToJson place (key :: seen) rest)

end

/-- **The JSON form of a value**, or the first offence in document order. -/
def toJson (v : Yaml) : Except ConvertError Json := toJsonAt "" v

end ApiContract.Yaml
