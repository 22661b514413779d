import ApiContract.Numeral.Digits

/-!
# Url/Escape — percent escapes

A character that a part of a URL cannot hold is written as its bytes, each a percent sign and two
hexadecimal digits.  Which characters those are differs from part to part; characters other than
ASCII are escaped everywhere.
-/

namespace ApiContract.Url

/-- A hexadecimal digit, as a capital letter beyond nine. -/
def hexDigit (n : Nat) : Char :=
  if n < 10 then Char.ofNat ('0'.toNat + n) else Char.ofNat ('A'.toNat + (n - 10))

/-- A byte escaped. -/
def escapeByte (b : UInt8) : List Char := ['%', hexDigit (b.toNat / 16), hexDigit (b.toNat % 16)]

/-- A character escaped. -/
def escapeChar (c : Char) : List Char := (String.singleton c).toUTF8.toList.flatMap escapeByte

/-- Control characters and all beyond ASCII. -/
def isControl (c : Char) : Bool := c.toNat < 0x20 || 0x7F ≤ c.toNat

/-- What a fragment cannot hold. -/
def fragmentEscapes (c : Char) : Bool := isControl c || " \"<>\x60".toList.contains c

/-- What a path cannot hold. -/
def pathEscapes (c : Char) : Bool := fragmentEscapes c || "#?\x7b\x7d".toList.contains c

/-- What a name or password cannot hold. -/
def credentialEscapes (c : Char) : Bool := pathEscapes c || "/:;=@[\\]^|".toList.contains c

/-- What a query cannot hold; an apostrophe only with the schemes that name a host in their own
way. -/
def queryEscapes (special : Bool) (c : Char) : Bool :=
  isControl c || " \"#<>".toList.contains c || (special && c = '\'')

/-- A text with some characters escaped. -/
def escape (escapes : Char → Bool) (text : List Char) : List Char :=
  text.flatMap fun c => if escapes c then escapeChar c else [c]

/-- The bytes of a text, its escapes taken as the bytes they write. -/
def unescape : List Char → List UInt8
  | '%' :: a :: b :: rest => match hexValue? a, hexValue? b with
    | some x, some y => UInt8.ofNat (x * 16 + y) :: unescape rest
    | _, _ => '%'.toUInt8 :: unescape (a :: b :: rest)
  | c :: rest => (String.singleton c).toUTF8.toList ++ unescape rest
  | [] => []

/-- The text that bytes encode. -/
def textOf? (bytes : List UInt8) : Option String := String.fromUTF8? ⟨bytes.toArray⟩

end ApiContract.Url
