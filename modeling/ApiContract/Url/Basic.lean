import ApiContract.Url.Address

/-!
# Url/Basic — URLs

A URL is kept in the parts it is written with, each escaped as far as that part needs it.
-/

namespace ApiContract

namespace Url

/-- A host: none, a name, or an address. -/
inductive Host where
  | absent
  | name (text : String)
  | version4 (address : Nat)
  | version6 (groups : List Nat)
  deriving DecidableEq

/-- The text of a host. -/
def Host.text : Host → String
  | absent => ""
  | name text => text
  | version4 n => address4Text n
  | version6 groups => "[" ++ address6Text groups ++ "]"

/-- Why a text is not a URL. -/
inductive Error where
  | relative | emptyHost | badPort | badVersion4 | badVersion6 | badDomain | badHostCharacter
  deriving DecidableEq

/-- The wording of an error. -/
def Error.message : Error → String
  | relative => "relative URL without a base"
  | emptyHost => "empty host"
  | badPort => "invalid port number"
  | badVersion4 => "invalid IPv4 address"
  | badVersion6 => "invalid IPv6 address"
  | badDomain => "invalid international domain name"
  | badHostCharacter => "invalid domain character"

/-- Who asks, and whom: what stands between two slashes and the path. -/
structure Authority where
  name : String := ""
  password : Option String := none
  host : Host
  portNumber : Option Nat := none
  deriving DecidableEq

/-- The text of an authority. -/
def Authority.text (a : Authority) : String :=
  let credentials := a.name ++ (a.password.map (":" ++ ·)).getD ""
  (if credentials.isEmpty then "" else credentials ++ "@") ++ a.host.text
    ++ (a.portNumber.map fun n => ":" ++ toString n).getD ""

end Url

/-- A URL. -/
structure Url where
  scheme : String
  authority : Option Url.Authority
  path : String
  query : Option String
  fragment : Option String
  deriving DecidableEq

namespace Url

/-- The text of a URL. -/
def text (u : Url) : String :=
  let optional (mark : String) (part : Option String) : String := (part.map (mark ++ ·)).getD ""
  -- without an authority, a path that began with two slashes would read as one
  let guarded := if u.authority.isNone && u.path.startsWith "//" then "/." else ""
  u.scheme ++ ":" ++ optional "//" (u.authority.map (·.text)) ++ guarded ++ u.path ++
    optional "?" u.query ++ optional "#" u.fragment

/-- Whether an escaped text is the escape of some text. -/
def isText (escaped : String) : Bool := (textOf? (unescape escaped.toList)).isSome

/-- The URL without the name and password, which stay only where they are no text. -/
def withoutCredentials (u : Url) : Url :=
  let strip (a : Authority) : Authority :=
    if isText a.name && (!a.name.isEmpty || a.password.any isText) then
      { host := a.host, portNumber := a.portNumber }
    else a
  { u with authority := u.authority.map strip }

end Url

end ApiContract
