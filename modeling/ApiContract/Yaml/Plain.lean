import ApiContract.Numeral.Digits
import ApiContract.Yaml.Value

/-!
# Yaml/Plain — what plain scalars mean

A plain scalar is null, a boolean, a number or a text.  Decimal digits after a leading zero are a
text; integers may also be written to the bases 16, 8 and 2.  Integers of more than 64 bits are
refused up to 128 bits and floats beyond.
-/

namespace ApiContract.Yaml

/-- The words for null. -/
def isNullWord (s : String) : Bool := s = "null" || s = "Null" || s = "NULL" || s = "~"

/-- The words for booleans. -/
def boolWord? (s : String) : Option Bool :=
  if s = "true" || s = "True" || s = "TRUE" then some true
  else if s = "false" || s = "False" || s = "FALSE" then some false
  else none

/-- Whether a text is zero and further decimal digits. -/
def isPaddedDigits (digits : List Char) : Bool :=
  digits.length > 1 && digits.head? == some '0' && digits.all Char.isDigit

/-- The magnitude of an integer, with the mark of its base or decimal without padding. -/
def magnitude? (text : List Char) : Option Nat :=
  match text with
  | '0' :: 'x' :: digits => digitsValue? 16 digits
  | '0' :: 'o' :: digits => digitsValue? 8 digits
  | '0' :: 'b' :: digits => digitsValue? 2 digits
  | digits => if isPaddedDigits digits then none else digitsValue? 10 digits

/-- The integer a text writes, with at most one sign. -/
def integer? (text : List Char) : Option Int :=
  match text with
  | '-' :: rest => (magnitude? rest).map fun n => -(n : Int)
  | '+' :: rest => (magnitude? rest).map (↑·)
  | rest => (magnitude? rest).map (↑·)

/-- The digits of a decimal with or without a point, at least one, and minus the digits after the
point. -/
def decimalDigits? (text : List Char) : Option (Nat × Int) :=
  let whole := text.takeWhile Char.isDigit
  match text.dropWhile Char.isDigit with
  | [] => (digitsValue? 10 whole).map (·, 0)
  | '.' :: fraction => (digitsValue? 10 (whole ++ fraction)).map (·, -(fraction.length : Int))
  | _ => none

/-- The exponent of ten a text writes, with at most one sign. -/
def exponent? (text : List Char) : Option Int :=
  match text with
  | '-' :: digits => (digitsValue? 10 digits).map fun n => -(n : Int)
  | '+' :: digits => (digitsValue? 10 digits).map (↑·)
  | digits => (digitsValue? 10 digits).map (↑·)

/-- The finite value nearest to an unsigned decimal. -/
def decimal? (negative : Bool) (text : List Char) : Option Binary64 := do
  let isMark (c : Char) : Bool := c = 'e' || c = 'E'
  let mantissa := text.takeWhile (!isMark ·)
  let (digits, scale) ← decimalDigits? mantissa
  let exponent ← match text.dropWhile (!isMark ·) with
    | [] => some 0
    | _ :: rest => exponent? rest
  Binary64.ofDecimal? negative digits (scale + exponent)

/-- The words for infinity. -/
def isInfinityWord (text : List Char) : Bool :=
  text = ".inf".toList || text = ".Inf".toList || text = ".INF".toList

/-- The words for NaN. -/
def isNanWord (text : List Char) : Bool :=
  text = ".nan".toList || text = ".NaN".toList || text = ".NAN".toList

/-- The float a text writes, with at most one sign. -/
def float? (text : List Char) : Option Number :=
  if isNanWord text then some .nan else
    let (negative, rest) := match text with
      | '-' :: rest => (true, rest)
      | '+' :: rest => (false, rest)
      | rest => (false, rest)
    if isInfinityWord rest then some (.infinity negative) else (decimal? negative rest).map .float

/-- An integer of 64 bits. -/
def ofInteger? (n : Int) : Option Number := if h : Json.Fits n then some (.int n h) else none

/-- Whether an integer has at most 128 bits. -/
def isWide (n : Int) : Bool :=
  -0x80000000000000000000000000000000 ≤ n && n < 0x100000000000000000000000000000000

/-- **The value of a plain scalar**, if it has one. -/
def ofPlain? (s : String) : Option Yaml :=
  if s.isEmpty || isNullWord s then some .null
  else match boolWord? s with
  | some b => some (.bool b)
  | none =>
    let text := s.toList
    match integer? text with
    | some n =>
      if isWide n then (ofInteger? n).map .number
      else some (((float? text).map .number).getD (.string s))
    | none =>
      let unsigned := match text with
        | '-' :: rest | '+' :: rest => rest
        | rest => rest
      if isPaddedDigits unsigned then some (.string s)
      else some (((float? text).map .number).getD (.string s))

end ApiContract.Yaml
