import ApiContract.Url.Basic
import ApiContract.Url.Name.Label

/-!
# Url/Domain — hosts by name

The hosts of web schemes are names or addresses, and are written in ASCII.  Other schemes keep
theirs as they are.
-/

namespace ApiContract.Url

/-- The host of a web scheme that a text writes. -/
def Host.ofDomain (text : List Char) : Except Error Host :=
  match (textOf? (unescape text)).bind fun s => domain? s.toList with
  | none => .error .badDomain
  | some domain =>
    if domain.isEmpty then .error .emptyHost
    else if endsInNumber domain then match address4? domain with
      | some n => .ok (.version4 n)
      | none => .error .badVersion4
    else .ok (.name (String.ofList domain))

/-- What a host of any other scheme cannot hold. -/
def isForbiddenHost (c : Char) : Bool := c = '\x00' || "\t\n\r #/:<>?@[\\]^|".toList.contains c

/-- The host of another scheme that a text writes, kept as it is. -/
def Host.ofOpaque (text : List Char) : Except Error Host :=
  if text.any isForbiddenHost then .error .badHostCharacter
  else if text.isEmpty then .ok .absent
  else .ok (.name (String.ofList (escape isControl text)))

/-- The host that a text writes, of a web scheme or another. -/
def Host.read (special : Bool) (text : List Char) : Except Error Host :=
  match text with
  | '[' :: rest =>
    if rest.getLast? == some ']' then match address6? rest.dropLast with
      | some groups => .ok (.version6 groups)
      | none => .error .badVersion6
    else .error .badVersion6
  | text =>
    if !special then Host.ofOpaque text
    else if text.isEmpty then .error .emptyHost
    else Host.ofDomain text

end ApiContract.Url
