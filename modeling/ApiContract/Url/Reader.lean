import ApiContract.Url.Domain

/-!
# Url/Reader — reading URLs

`Url.read` takes a text apart from the left: scheme, authority, path, query, fragment.  Blanks about
the text and tabs and breaks inside it do not count.  The schemes `http` and `https` always name a
host, and take backslashes for slashes.
-/

namespace ApiContract.Url

/-- The schemes that name a host in their own way, with the port numbers they imply. -/
def impliedPort? (scheme : String) : Option Nat :=
  if scheme = "http" then some 80 else if scheme = "https" then some 443 else none

/-- A scheme, in lower case, and the text after its colon. -/
def readScheme? (text : List Char) : Option (String × List Char) :=
  let isSchemeChar (c : Char) : Bool := c.isAlphanum || c = '+' || c = '-' || c = '.'
  match text.takeWhile isSchemeChar, text.dropWhile isSchemeChar with
  | c :: cs, ':' :: rest =>
    if c.isAlpha then some (String.ofList ((c :: cs).map Char.toLower), rest) else none
  | _, _ => none

/-- What ends an authority. -/
def endsAuthority (special : Bool) (c : Char) : Bool :=
  c = '/' || c = '?' || c = '#' || (special && c = '\\')

/-- The text up to the last at sign, if there is one, and the text after it. -/
def atLastSign? (text : List Char) : Option (List Char × List Char) :=
  let after := (text.reverse.takeWhile (· ≠ '@')).reverse
  if after.length < text.length then some (text.take (text.length - after.length - 1), after)
  else none

/-- The name and password that a text before an at sign writes; an empty password is none. -/
def readCredentials (text : List Char) : String × Option String :=
  let name := text.takeWhile (· ≠ ':')
  let password := (text.dropWhile (· ≠ ':')).drop 1
  let written (part : List Char) : String := String.ofList (escape credentialEscapes part)
  (written name, if password.isEmpty then none else some (written password))

/-- The text of a host, up to a colon outside brackets or an end, and the text after it. -/
def splitHost (special inBrackets : Bool) : List Char → List Char × List Char
  | [] => ([], [])
  | c :: rest =>
    if (c = ':' && !inBrackets) || endsAuthority special c then ([], c :: rest)
    else
      let next :=
        splitHost special (if c = '[' then true else if c = ']' then false else inBrackets) rest
      (c :: next.1, next.2)

/-- The number after a colon, none where it is left out or implied, and the text after it. -/
def readPort (implied : Option Nat) (text : List Char) : Except Error (Option Nat × List Char) :=
  let digits := text.takeWhile Char.isDigit
  let rest := text.dropWhile Char.isDigit
  let portNumber := digitsValue? 10 digits
  if portNumber.any (65535 < ·) then .error .badPort
  else if rest.head?.any (fun c => !endsAuthority true c) then .error .badPort
  else .ok (if portNumber == implied then none else portNumber, rest)

/-- The authority after two slashes, and the text after it. -/
def readAuthority (scheme : String) (text : List Char) : Except Error (Authority × List Char) := do
  let implied := impliedPort? scheme
  let special := implied.isSome
  let region := text.takeWhile (!endsAuthority special ·)
  let after := text.dropWhile (!endsAuthority special ·)
  let (credentials, rest) := (atLastSign? region).getD ([], region)
  if rest.isEmpty && !after.isEmpty && credentials.isEmpty && region.length = 1 then
    throw .emptyHost
  let (name, password) := readCredentials credentials
  let (hostText, rest) := splitHost special false (rest ++ after)
  let host ← Host.read special hostText
  let (portNumber, rest) ← match rest with
    | ':' :: rest => if host = .absent then throw .emptyHost else readPort implied rest
    | rest => pure (none, rest)
  if host = .absent && !(name.isEmpty && password.isNone) then throw .emptyHost
  return ({ name, password, host, portNumber }, rest)

/-! ## Paths -/

/-- The segments that stand for the one they are in. -/
def isDot (segment : List Char) : Bool :=
  [".", "%2e"].contains (String.ofList (segment.map Char.toLower))

/-- The segments that stand for the one above. -/
def isDoubleDot (segment : List Char) : Bool :=
  ["..", ".%2e", "%2e.", "%2e%2e"].contains (String.ofList (segment.map Char.toLower))

/-- A letter and a colon or bar, alone or before a backslash: such a segment is never left
upwards. -/
def isDrive : List Char → Bool
  | letter :: mark :: rest =>
    letter.isAlpha && (mark = ':' || mark = '|') && (rest.isEmpty || rest.head? == some '\\')
  | _ => false

/-- The segments above the last, which comes first. -/
def parent : List (List Char) → List (List Char)
  | [] => []
  | last :: above => if isDrive last then last :: above else above

/-- Append escaped segments to those before them, the last of which comes first; the final segment
ends the path. -/
def resolve (above : List (List Char)) : List (List Char) → List Char
  | [] => above.reverse.flatMap (· ++ ['/'])
  | [last] =>
    let above' := if isDoubleDot last then parent above else above
    above'.reverse.flatMap (· ++ ['/']) ++ (if isDot last || isDoubleDot last then [] else last)
  | segment :: rest =>
    resolve
      (if isDoubleDot segment then parent above
        else if isDot segment then above
        else segment :: above)
      rest

/-- The path whose text follows a slash, with its dots resolved. -/
def pathAfterSlash (special : Bool) (text : List Char) : List Char :=
  let text := if special then text.map fun c => if c = '\\' then '/' else c else text
  '/' :: resolve [] ((splitOn '/' text).map (escape pathEscapes))

/-- The path after an authority. -/
def pathAfterAuthority (special : Bool) : List Char → List Char
  | [] => if special then ['/'] else []
  | c :: rest =>
    pathAfterSlash special (if c = '/' || (special && c = '\\') then rest else c :: rest)

/-- The path of a URL without an authority: segments after a slash, and otherwise any text. -/
def pathAlone : List Char → List Char
  | '/' :: rest => pathAfterSlash false rest
  | text => escape isControl text

/-! ## Whole texts -/

/-- The text that counts: without blanks and control characters at its ends, and without tabs and
breaks. -/
def significant (text : List Char) : List Char :=
  let isOuter (c : Char) : Bool := c.toNat ≤ 0x20
  ((text.dropWhile isOuter).reverse.dropWhile isOuter).reverse.filter fun c =>
    c ≠ '\t' && c ≠ '\n' && c ≠ '\r'

/-- The path, query and fragment texts of the rest of a URL. -/
def splitTail (text : List Char) : List Char × Option (List Char) × Option (List Char) :=
  let beforeFragment := text.takeWhile (· ≠ '#')
  let fragment := text.dropWhile (· ≠ '#')
  let query := beforeFragment.dropWhile (· ≠ '?')
  (beforeFragment.takeWhile (· ≠ '?'), if query.isEmpty then none else some (query.drop 1),
    if fragment.isEmpty then none else some (fragment.drop 1))

/-- **The URL that a text writes**, or the first fault from the left. -/
def read (s : String) : Except Error Url :=
  match readScheme? (significant s.toList) with
  | none => .error .relative
  | some (scheme, rest) => do
    let special := (impliedPort? scheme).isSome
    let afterSlashes :=
      if special then some (rest.dropWhile fun c => c = '/' || c = '\\')
      else if rest.take 2 = ['/', '/'] then some (rest.drop 2) else none
    let (authority, tail) ← match afterSlashes with
      | none => pure (none, rest)
      | some text => (readAuthority scheme text).map fun r => (some r.1, r.2)
    let (pathText, query, fragment) := splitTail tail
    let path := if authority.isSome then pathAfterAuthority special pathText else pathAlone pathText
    return {
      scheme, authority
      path := String.ofList path
      query := query.map fun q => String.ofList (escape (queryEscapes special) q)
      fragment := fragment.map fun f => String.ofList (escape fragmentEscapes f) }

end ApiContract.Url
