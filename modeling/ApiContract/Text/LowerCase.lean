import ApiContract.Text.LowerCase.Table

/-!
# Text/LowerCase — the lower case of a text

The mapping of Unicode 17 without a locale: letter by letter, with two exceptions.  `İ` becomes `i`
and a combining dot, and a capital sigma at the end of a word takes its final form.
-/

namespace ApiContract.Text

/-- The lower case of one character, whatever stands around it. -/
def lowerChar (c : Char) : List Char :=
  if c.toNat < 0x80 then [c.toLower]
  else if c.toNat = 0x130 then ['i', '\u0307']
  else match lowerRuns.find? (·.covers c.toNat) with
    | some r => [Char.ofNat (r.image c.toNat)]
    | none => [c]

/-- Whether the first character that is not ignorable for case is a cased one. -/
def meetsCased (cs : List Char) : Bool :=
  match cs.dropWhile fun c => caseIgnorableRanges.contains c.toNat with
  | c :: _ => casedRanges.contains c.toNat
  | [] => false

/-- The lower case of the characters `cs`; `before` holds those ahead of them, last first.  A sigma
is final after a letter and before none. -/
def lowerChars (before : List Char) : List Char → List Char
  | [] => []
  | c :: cs =>
    (if c = 'Σ' then [if meetsCased before && !meetsCased cs then 'ς' else 'σ'] else lowerChar c)
      ++ lowerChars (c :: before) cs

/-- The text in lower case. -/
def lowerCase (s : String) : String := String.ofList (lowerChars [] s.toList)

end ApiContract.Text
