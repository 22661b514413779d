import ApiContract.Json.Reader
import ApiContract.Source.Files
import ApiContract.Yaml.Reader
import ApiContract.Yaml.ToJson

/-!
# Source/Format — the formats of documents

The extension of a file's name tells its format.
-/

namespace ApiContract

/-- A format of documents. -/
inductive Format where
  | json | yaml
  deriving DecidableEq

/-- What follows the last dot of a name; none for a name that only begins with a dot. -/
def extension? (name : String) : Option String :=
  let ending := (name.toList.reverse.takeWhile (· ≠ '.')).reverse
  if ending.length + 1 < name.length then some (String.ofList ending) else none

/-- The name a path ends in; none where it leads upwards or nowhere. -/
def finalName? (path : String) : Option String := (properNames path).getLast?.filter (· ≠ "..")

namespace Format

/-- The format that the name of a file tells. -/
def ofPath? (path : String) : Option Format :=
  match (finalName? path).bind extension? with
  | some "json" => some json
  | some "yml" => some yaml
  | some "yaml" => some yaml
  | _ => none

/-- The document a text writes, or why it writes none. -/
def decode (f : Format) (text : String) : Except String Json :=
  match f with
  | json => (Json.read text).mapError fun e => "invalid JSON: " ++ e.text
  | yaml => match Yaml.read? text with
    | none => .error "invalid YAML"
    | some v => v.toJson.mapError Yaml.ConvertError.message

end Format

end ApiContract
