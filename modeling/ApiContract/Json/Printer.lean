import ApiContract.Json.Basic
import ApiContract.Numeral.Shortest

/-!
# Json/Printer — the text of a JSON value

Two layouts: `compact` on one line without spaces, and `pretty` with one member a line and two
spaces a level.  Members print in their own order.  A string escapes the quote, the backslash and
the controls below the blank, everything else stands for itself.
-/

namespace ApiContract

namespace Json

/-- The hexadecimal digit of a value below 16. -/
def hexDigit (n : Nat) : Char := Nat.digitChar n

/-- A character inside a quoted string. -/
def escapeChar : Char → List Char
  | '"' => ['\\', '"']
  | '\\' => ['\\', '\\']
  | '\n' => ['\\', 'n']
  | '\r' => ['\\', 'r']
  | '\t' => ['\\', 't']
  | '\x08' => ['\\', 'b']
  | '\x0c' => ['\\', 'f']
  | c =>
    if c.toNat < 32 then
      ['\\', 'u', '0', '0', hexDigit (c.toNat / 16), hexDigit (c.toNat % 16)]
    else [c]

/-- A string in quotes. -/
def quoted (s : String) : String := "\"" ++ String.ofList (s.toList.flatMap escapeChar) ++ "\""

/-- JSON floats sign their positive exponents. -/
def floatForm : DecimalForm := ⟨true⟩

/-- The text of a number. -/
def Number.text : Number → String
  | .int n _ => toString n
  | .float x => floatForm.text x

mutual

/-- The value on one line, without spaces. -/
def compact : Json → String
  | null => "null"
  | bool b => if b then "true" else "false"
  | number n => n.text
  | string s => quoted s
  | array items => "[" ++ compactItems items ++ "]"
  | object ms => "\x7b" ++ compactMembers ms ++ "\x7d"

/-- Elements, comma between. -/
def compactItems : List Json → String
  | [] => ""
  | [x] => compact x
  | x :: xs => compact x ++ "," ++ compactItems xs

/-- Members, comma between. -/
def compactMembers : List (String × Json) → String
  | [] => ""
  | [(k, x)] => quoted k ++ ":" ++ compact x
  | (k, x) :: ms => quoted k ++ ":" ++ compact x ++ "," ++ compactMembers ms

end

/-- A new line at a depth, two spaces a level. -/
def newLine (depth : Nat) : String := "\n" ++ String.ofList (List.replicate (2 * depth) ' ')

mutual

/-- The value with one element or member a line; empty containers stay on theirs. -/
def prettyAt (depth : Nat) : Json → String
  | null => "null"
  | bool b => if b then "true" else "false"
  | number n => n.text
  | string s => quoted s
  | array [] => "[]"
  | array (x :: xs) =>
    "[" ++ newLine (depth + 1) ++ prettyAt (depth + 1) x ++ prettyItems (depth + 1) xs
      ++ newLine depth ++ "]"
  | object [] => "\x7b\x7d"
  | object ((k, x) :: ms) =>
    "\x7b" ++ newLine (depth + 1) ++ quoted k ++ ": " ++ prettyAt (depth + 1) x
      ++ prettyMembers (depth + 1) ms ++ newLine depth ++ "\x7d"

/-- The elements after the first. -/
def prettyItems (depth : Nat) : List Json → String
  | [] => ""
  | x :: xs => "," ++ newLine depth ++ prettyAt depth x ++ prettyItems depth xs

/-- The members after the first. -/
def prettyMembers (depth : Nat) : List (String × Json) → String
  | [] => ""
  | (k, x) :: ms =>
    "," ++ newLine depth ++ quoted k ++ ": " ++ prettyAt depth x ++ prettyMembers depth ms

end

/-- The value over several lines. -/
def pretty (v : Json) : String := prettyAt 0 v

/-- A value in running text: strings stand for themselves, null is empty, all else is compact. -/
def bare : Json → String
  | string s => s
  | null => ""
  | v => v.compact

end Json

/-- Strings in quotes, in brackets, a comma and a blank between. -/
def quotedList (items : List String) : String :=
  "[" ++ ", ".intercalate (items.map Json.quoted) ++ "]"

end ApiContract
