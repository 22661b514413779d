import ApiContract.Text.Blank
import ApiContract.Text.LowerCase

/-!
# Contract/Media — the media types of bodies
-/

namespace ApiContract

/-- A media type a body can have. -/
inductive Media where
  | json | text
  deriving DecidableEq, Ord

namespace Media

/-- The name of a media type. -/
def name : Media → String
  | json => "application/json"
  | text => "text/plain"

/-- The media type of a name, written exactly so. -/
def ofName? (s : String) : Option Media := [json, text].find? fun m => m.name == s

/-- The essence of a header's value: what stands before the first semicolon, without blanks around
it, in lower case. -/
def essence (header : String) : String :=
  Text.lowerCase (Text.trim (String.ofList (header.toList.takeWhile (· ≠ ';'))))

/-- The essence of a header's value and the media type it names. -/
def normalize (header : String) : String × Option Media :=
  (essence header, ofName? (essence header))

end Media

end ApiContract
