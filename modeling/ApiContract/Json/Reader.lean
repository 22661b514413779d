import ApiContract.Json.Basic
import ApiContract.Numeral.Digits

/-!
# Json/Reader — reading JSON text

`Json.read` reads one value and nothing after it, or tells the cause and the place of the first
fault.  The reader's state is the text still to be read; a fault keeps that rest and how many bytes
past it were taken, and `Place.of` turns the two into a line and a column counted in bytes.

A number without point or exponent that fits 64 bits is an integer.  Any other is assembled as the
first 19 to 20 digits that fit 64 bits, rounded, then multiplied or divided by a rounded power of
ten: two roundings, so a long literal may come out one unit beside the nearest value.
-/

namespace ApiContract

namespace Json

/-- Why a text is not JSON. -/
inductive ReadCause where
  | endInValue | endInArray | endInObject | endInString
  | expectedColon | expectedCommaOrBracket | expectedCommaOrBrace | expectedIdent | expectedValue
  | badEscape | badNumber | numberTooLarge | controlCharacter | keyNotString | loneSurrogate
  | trailingComma | trailingCharacters | shortSurrogatePair | tooDeep
  deriving DecidableEq

/-- The wording of a cause. -/
def ReadCause.text : ReadCause → String
  | endInValue => "EOF while parsing a value"
  | endInArray => "EOF while parsing a list"
  | endInObject => "EOF while parsing an object"
  | endInString => "EOF while parsing a string"
  | expectedColon => "expected \x60:\x60"
  | expectedCommaOrBracket => "expected \x60,\x60 or \x60]\x60"
  | expectedCommaOrBrace => "expected \x60,\x60 or \x60\x7d\x60"
  | expectedIdent => "expected ident"
  | expectedValue => "expected value"
  | badEscape => "invalid escape"
  | badNumber => "invalid number"
  | numberTooLarge => "number out of range"
  | controlCharacter => "control character (\\u0000-\\u001F) found while parsing a string"
  | keyNotString => "key must be a string"
  | loneSurrogate => "lone leading surrogate in hex escape"
  | trailingComma => "trailing comma"
  | trailingCharacters => "trailing characters"
  | shortSurrogatePair => "unexpected end of hex escape"
  | tooDeep => "recursion limit exceeded"

/-- A line, from one, and the bytes before the place on it. -/
structure Place where
  line : Nat
  column : Nat
  deriving DecidableEq

/-- The place after the first `offset` bytes of a text. -/
def Place.after (text : List Char) (offset : Nat) : Place := go text offset ⟨1, 0⟩
where
  /-- Walk the text, counting lines and the bytes on the last one. -/
  go : List Char → Nat → Place → Place
    | [], _, p => p
    | c :: cs, n, p =>
      if n < c.utf8Size then { p with column := p.column + n }
      else
        go cs (n - c.utf8Size)
          (if c = '\n' then ⟨p.line + 1, 0⟩ else { p with column := p.column + c.utf8Size })

/-- The bytes of a text. -/
def byteCount (text : List Char) : Nat := text.foldl (fun n c => n + c.utf8Size) 0

/-- A fault met while reading: its cause, the text left then, and the bytes past its start that
count as read. -/
structure Fault where
  cause : ReadCause
  rest : List Char
  past : Nat := 0

/-- What a step yields: a result and the rest, shorter than what it began with. -/
abbrev Step (α : Type) (text : List Char) :=
  Except Fault (α × { rest : List Char // rest.length < text.length })

/-- The step on a text, as one on a longer text. -/
def Step.within {α : Type} {text whole : List Char} (h : text.length ≤ whole.length)
    (s : Step α text) : Step α whole :=
  s.map fun r => (r.1, ⟨r.2.1, Nat.lt_of_lt_of_le r.2.2 h⟩)

/-- A fault at the next byte, which counts as seen. -/
def Fault.peeking (cause : ReadCause) (rest : List Char) : Fault := ⟨cause, rest, 1⟩

/-- Blanks between tokens. -/
def isBlank (c : Char) : Bool := c = ' ' || c = '\n' || c = '\t' || c = '\r'

/-- The text after its leading blanks. -/
def skipBlanks (text : List Char) : { rest : List Char // rest.length ≤ text.length } :=
  ⟨text.dropWhile isBlank, (List.dropWhile_sublist _).length_le⟩

/-! ## Words -/

/-- The letters of `null`, `true` and `false` after the first. -/
def word (text : List Char) :
    (expected : List Char) → Except Fault { rest : List Char // rest.length ≤ text.length }
  | [] => .ok ⟨text, Nat.le_refl _⟩
  | e :: es => match text with
    | [] => .error ⟨.endInValue, [], 0⟩
    | c :: cs =>
      if c = e then (word cs es).map fun r => ⟨r.1, Nat.le_succ_of_le r.2⟩
      else .error ⟨.expectedIdent, c :: cs, 1⟩

/-! ## Numbers -/

/-- The value of a decimal digit. -/
def digit? (c : Char) : Option Nat := if c.isDigit then some (c.toNat - '0'.toNat) else none

/-- `significand · 10 ^ exponent` by one rounding of the significand and one of each power's product
or quotient; the fuel bounds the steps of 308. -/
def assemble (fuel : Nat) (x : Binary64) (exponent : Int) : Option Binary64 :=
  let power (k : Nat) := (Binary64.nearest? false (Nat.pow 10 k) 1).getD (Binary64.zero false)
  if exponent.natAbs ≤ 308 then
    if 0 ≤ exponent then x.mul? (power exponent.natAbs) else x.div? (power exponent.natAbs)
  else if x.isZero then some x
  else if 0 ≤ exponent then none
  else match fuel with
    | 0 => some (Binary64.zero false)
    | fuel + 1 => (x.div? (power 308)).bind fun y => assemble fuel y (exponent + 308)

/-- A float from its sign, the digits kept and the exponent. -/
def float (negative : Bool) (significand : Nat) (exponent : Int) (rest : List Char) :
    Except Fault (Json × List Char) :=
  match assemble 6 (Binary64.ofInt significand) exponent with
  | some x => .ok (number (.float (if negative then x.neg else x)), rest)
  | none => .error ⟨.numberTooLarge, rest, 0⟩

/-- Read the digits of an exponent after its first; `none` once it passes 31 bits, with the text
after the digit that did. -/
def exponentDigits : (value : Nat) → List Char → Option Nat × List Char
  | n, c :: cs => match digit? c with
    | some d => if 0x80000000 ≤ n * 10 + d then (none, cs) else exponentDigits (n * 10 + d) cs
    | none => (some n, c :: cs)
  | n, [] => (some n, [])

/-- The exponent part after its letter. -/
def exponentPart (negative : Bool) (significand : Nat) (start : Int) (text : List Char) :
    Except Fault (Json × List Char) :=
  let (down, body) := match text with
    | '+' :: cs => (false, cs)
    | '-' :: cs => (true, cs)
    | cs => (false, cs)
  match body with
  | [] => .error ⟨.endInValue, [], 0⟩
  | c :: cs => match digit? c with
    | none => .error ⟨.badNumber, c :: cs, 1⟩
    | some d => match exponentDigits d cs with
      | (some e, rest) => float negative significand (if down then start - e else start + e) rest
      | (none, rest) =>
        if significand ≠ 0 ∧ ¬down then .error ⟨.numberTooLarge, rest, 0⟩
        else .ok (number (.float (Binary64.zero negative)), rest.dropWhile Char.isDigit)

/-- What follows the digits of a fraction. -/
def afterFraction (negative : Bool) (significand : Nat) (exponent : Int) :
    List Char → Except Fault (Json × List Char)
  | c :: cs =>
    if c = 'e' ∨ c = 'E' then exponentPart negative significand exponent cs
    else float negative significand exponent (c :: cs)
  | [] => float negative significand exponent []

/-- The digits of a fraction: each lowers the exponent until the significand is full, and the digits
after that are dropped. -/
def fractionDigits (negative : Bool) (start : Int) : (significand taken : Nat) → List Char →
    Except Fault (Json × List Char)
  | n, taken, c :: cs => match digit? c with
    | some d =>
      if 0x10000000000000000 ≤ n * 10 + d then
        afterFraction negative n (start - taken) ((c :: cs).dropWhile Char.isDigit)
      else fractionDigits negative start (n * 10 + d) (taken + 1) cs
    | none =>
      if taken = 0 then .error (.peeking .badNumber (c :: cs))
      else afterFraction negative n (start - taken) (c :: cs)
  | n, taken, [] =>
    if taken = 0 then .error (.peeking .endInValue []) else float negative n (start - taken) []

/-- The digits of an integer once the significand is full: each raises the exponent. -/
def longInteger (negative : Bool) (significand : Nat) : (exponent : Nat) → List Char →
    Except Fault (Json × List Char)
  | e, c :: cs =>
    if c.isDigit then longInteger negative significand (e + 1) cs
    else if c = '.' then fractionDigits negative e significand 0 cs
    else if c = 'e' ∨ c = 'E' then exponentPart negative significand e cs
    else float negative significand e (c :: cs)
  | e, [] => float negative significand e []

/-- An integer literal: an integer if it fits and is not `-0`. -/
def integer (negative : Bool) (significand : Nat) (rest : List Char) : Json × List Char :=
  let value : Int := if negative then -significand else significand
  let rounded := Binary64.ofInt significand
  let asFloat := number (.float (if negative then rounded.neg else rounded))
  (if negative ∧ significand = 0 then asFloat else (ofInt? value).getD asFloat, rest)

/-- The digits of a number after its first. -/
def integerDigits (negative : Bool) : (significand : Nat) → List Char →
    Except Fault (Json × List Char)
  | n, c :: cs => match digit? c with
    | some d =>
      if 0x10000000000000000 ≤ n * 10 + d then longInteger negative n 0 (c :: cs)
      else integerDigits negative (n * 10 + d) cs
    | none =>
      if c = '.' then fractionDigits negative 0 n 0 cs
      else if c = 'e' ∨ c = 'E' then exponentPart negative n 0 cs
      else .ok (integer negative n (c :: cs))
  | n, [] => .ok (integer negative n [])

/-- A number after its sign; a leading zero stands alone. -/
def numberText (negative : Bool) : List Char → Except Fault (Json × List Char)
  | [] => .error ⟨.endInValue, [], 0⟩
  | c :: cs => match digit? c with
    | none => .error ⟨.badNumber, c :: cs, 1⟩
    | some 0 => match cs with
      | d :: _ => if d.isDigit then .error (.peeking .badNumber cs) else integerDigits negative 0 cs
      | [] => integerDigits negative 0 []
    | some d => integerDigits negative d cs

/-! Each part of a number leaves a rest no longer than its text. -/

theorem float_length {negative significand exponent text v rest}
    (h : float negative significand exponent text = .ok (v, rest)) : rest.length ≤ text.length := by
  unfold float at h; split at h <;> simp_all

theorem exponentDigits_length (n : Nat) (text : List Char) :
    (exponentDigits n text).2.length ≤ text.length := by
  fun_induction exponentDigits n text <;> simp_all; omega

theorem exponentPart_length {negative significand start text v rest}
    (h : exponentPart negative significand start text = .ok (v, rest)) :
    rest.length ≤ text.length := by
  unfold exponentPart at h
  split at h
  rename_i down body hb
  have hbody : body.length ≤ text.length := by
    split at hb <;> simp_all
  split at h
  · simp at h
  · rename_i c cs
    split at h
    · simp at h
    · rename_i d _
      have := exponentDigits_length d cs
      split at h
      · rename_i heq
        have := float_length h
        grind
      · split at h
        · simp at h
        · rename_i r heq _
          have := (List.dropWhile_sublist (l := r) Char.isDigit).length_le
          grind

theorem afterFraction_length {negative significand exponent text v rest}
    (h : afterFraction negative significand exponent text = .ok (v, rest)) :
    rest.length ≤ text.length := by
  unfold afterFraction at h
  split at h
  · split at h
    · have := exponentPart_length h
      grind
    · exact float_length h
  · exact float_length h

theorem fractionDigits_length {negative start significand taken text v rest}
    (h : fractionDigits negative start significand taken text = .ok (v, rest)) :
    rest.length ≤ text.length := by
  fun_induction fractionDigits negative start significand taken text with
  | case1 n taken c cs d hd hbig =>
    have := afterFraction_length h
    have := (List.dropWhile_sublist (l := c :: cs) Char.isDigit).length_le
    omega
  | case2 n taken c cs d hd hbig ih => have := ih h; simp only [List.length_cons]; omega
  | case3 => simp at h
  | case4 => exact afterFraction_length h
  | case5 => simp at h
  | case6 => exact float_length h

theorem longInteger_length {negative significand e text v rest}
    (h : longInteger negative significand e text = .ok (v, rest)) : rest.length ≤ text.length := by
  fun_induction longInteger negative significand e text with
  | case1 e c cs hd ih => have := ih h; simp only [List.length_cons]; omega
  | case2 e cs => have := fractionDigits_length h; simp only [List.length_cons]; omega
  | case3 e c cs => have := exponentPart_length h; simp only [List.length_cons]; omega
  | case4 => exact float_length h
  | case5 => exact float_length h

theorem integerDigits_length {negative n text v rest}
    (h : integerDigits negative n text = .ok (v, rest)) : rest.length ≤ text.length := by
  fun_induction integerDigits negative n text with
  | case1 => exact longInteger_length h
  | case2 n c cs d hd hbig ih => have := ih h; simp only [List.length_cons]; omega
  | case3 n cs => have := fractionDigits_length h; simp only [List.length_cons]; omega
  | case4 n c cs => have := exponentPart_length h; simp only [List.length_cons]; omega
  | case5 => simp_all [integer]
  | case6 => simp_all [integer]

theorem numberText_length {negative text v rest}
    (h : numberText negative text = .ok (v, rest)) : rest.length < text.length := by
  unfold numberText at h
  split at h
  · simp at h
  · split at h
    · simp at h
    · split at h
      · split at h
        · simp at h
        · have := integerDigits_length h; simp only [List.length_cons] at *; omega
      · have := integerDigits_length h; simp only [List.length_cons] at *; omega
    · have := integerDigits_length h; simp only [List.length_cons] at *; omega

/-! ## Strings -/

/-- Four hexadecimal digits.  Four bytes are taken before they are looked at. -/
def fourHex (text : List Char) : Step Nat text :=
  let fault : Fault := if byteCount text < 4 then ⟨.endInString, [], 0⟩ else ⟨.badEscape, text, 4⟩
  match text with
  | a :: b :: c :: d :: rest =>
    match hexValue? a, hexValue? b, hexValue? c, hexValue? d with
    | some a, some b, some c, some d =>
      .ok (((a * 16 + b) * 16 + c) * 16 + d, ⟨rest, by simp only [List.length_cons]; omega⟩)
    | _, _, _, _ => .error fault
  | _ => .error fault

/-- A hexadecimal escape after its letter: one unit outside the surrogates, or a pair of them. -/
def unicodeEscape (text : List Char) : Step Char text :=
  match fourHex text with
  | .error f => .error f
  | .ok (high, ⟨rest, h⟩) =>
    if 0xDC00 ≤ high ∧ high ≤ 0xDFFF then .error ⟨.loneSurrogate, rest, 0⟩
    else if high < 0xD800 ∨ 0xDBFF < high then .ok (Char.ofNat high, ⟨rest, h⟩)
    else match rest, h with
      | [], _ => .error ⟨.endInString, [], 0⟩
      | '\\' :: 'u' :: more, h => match fourHex more with
        | .error f => .error f
        | .ok (low, ⟨rest', h'⟩) =>
          if low < 0xDC00 ∨ 0xDFFF < low then .error ⟨.loneSurrogate, rest', 0⟩
          else .ok (Char.ofNat ((high - 0xD800) * 0x400 + (low - 0xDC00) + 0x10000),
            ⟨rest', by simp only [List.length_cons] at h; omega⟩)
      | ['\\'], _ => .error ⟨.endInString, [], 0⟩
      | '\\' :: c :: cs, _ => .error ⟨.shortSurrogatePair, c :: cs, 1⟩
      | c :: cs, _ => .error ⟨.shortSurrogatePair, c :: cs, 1⟩

/-- The character of an escape, after the backslash. -/
def escape (text : List Char) : Step Char text :=
  match text with
  | [] => .error ⟨.endInString, [], 0⟩
  | c :: cs =>
    let plain (d : Char) : Step Char (c :: cs) :=
      .ok (d, ⟨cs, by simp⟩)
    if c = '"' ∨ c = '\\' ∨ c = '/' then plain c
    else if c = 'b' then plain '\x08'
    else if c = 'f' then plain '\x0c'
    else if c = 'n' then plain '\n'
    else if c = 'r' then plain '\r'
    else if c = 't' then plain '\t'
    else if c = 'u' then match unicodeEscape cs with
      | .error f => .error f
      | .ok (d, ⟨rest, h⟩) => .ok (d, ⟨rest, Nat.lt_succ_of_lt h⟩)
    else .error ⟨.badEscape, c :: cs, 1⟩

/-- The characters of a string after its opening quote; `done` holds those read, last first. -/
def stringBody (done : List Char) (text : List Char) : Step String text :=
  match text with
  | [] => .error ⟨.endInString, [], 0⟩
  | c :: cs =>
    if c = '"' then .ok (String.ofList done.reverse, ⟨cs, by simp⟩)
    else if c = '\\' then match escape cs with
      | .error f => .error f
      | .ok (d, ⟨more, h⟩) => match stringBody (d :: done) more with
        | .error f => .error f
        | .ok (s, ⟨rest, h'⟩) => .ok (s, ⟨rest, by simp only [List.length_cons]; omega⟩)
    else if c.toNat < 32 then .error ⟨.controlCharacter, c :: cs, 1⟩
    else match stringBody (c :: done) cs with
      | .error f => .error f
      | .ok (s, ⟨rest, h'⟩) => .ok (s, ⟨rest, by simp only [List.length_cons]; omega⟩)
termination_by text.length

/-! ## Values -/

/-- The word after its first letter, as the value it stands for. -/
def wordValue (expected : String) (v : Json) (text : List Char) (c : Char) :
    Step Json (c :: text) :=
  (word text expected.toList).map fun r => (v, ⟨r.1, Nat.lt_succ_of_le r.2⟩)

/-- A number, its rest with the proof that it is shorter. -/
def numberValue (negative : Bool) (text : List Char) : Step Json text :=
  match h : numberText negative text with
  | .error f => .error f
  | .ok (v, rest) => .ok (v, ⟨rest, numberText_length h⟩)

mutual

/-- One value; `nesting` is how many levels it may still open, plus one. -/
def value (nesting : Nat) (text : List Char) : Step Json text :=
  match skipBlanks text with
  | ⟨[], _⟩ => .error (.peeking .endInValue [])
  | ⟨c :: cs, h⟩ =>
    have : cs.length < text.length := h
    if c = 'n' then (wordValue "ull" null cs c).within h
    else if c = 't' then (wordValue "rue" (bool true) cs c).within h
    else if c = 'f' then (wordValue "alse" (bool false) cs c).within h
    else if c = '-' then (numberValue true cs).within (Nat.le_of_lt this)
    else if c.isDigit then (numberValue false (c :: cs)).within h
    else if c = '"' then
      (stringBody [] cs).map fun r => (string r.1, ⟨r.2.1, Nat.lt_trans r.2.2 this⟩)
    else if c = '[' then
      if nesting ≤ 1 then .error (.peeking .tooDeep (c :: cs)) else
        (elements (nesting - 1) true [] cs).map fun r =>
          (array r.1, ⟨r.2.1, Nat.lt_trans r.2.2 this⟩)
    else if c = '\x7b' then
      if nesting ≤ 1 then .error (.peeking .tooDeep (c :: cs)) else
        (membersFrom (nesting - 1) true [] cs).map fun r =>
          (object r.1, ⟨r.2.1, Nat.lt_trans r.2.2 this⟩)
    else .error (.peeking .expectedValue (c :: cs))
termination_by 3 * text.length

/-- The elements up to the closing bracket; `done` holds those read, last first. -/
def elements (nesting : Nat) (first : Bool) (done : List Json) (text : List Char) :
    Step (List Json) text :=
  match skipBlanks text with
  | ⟨[], _⟩ => .error (.peeking .endInArray [])
  | ⟨c :: cs, h⟩ =>
    have : cs.length + 1 ≤ text.length := h
    if c = ']' then .ok (done.reverse, ⟨cs, h⟩)
    else if first then element nesting done (c :: cs) h
    else if c = ',' then match skipBlanks cs with
      | ⟨[], _⟩ => .error (.peeking .endInValue [])
      | ⟨d :: ds, h'⟩ =>
        have : ds.length + 1 ≤ cs.length := h'
        if d = ']' then .error (.peeking .trailingComma (d :: ds))
        else element nesting done (d :: ds) (Nat.le_trans h' (Nat.le_of_lt h))
    else .error (.peeking .expectedCommaOrBracket (c :: cs))
termination_by 3 * text.length + 2

/-- One element and those after it. -/
def element (nesting : Nat) (done : List Json) (text : List Char) {whole : List Char}
    (h : text.length ≤ whole.length) : Step (List Json) whole :=
  match value nesting text with
  | .error f => .error f
  | .ok (v, ⟨rest, hr⟩) => (elements nesting false (v :: done) rest).within (by omega)
termination_by 3 * text.length + 1

/-- The members up to the closing brace, written over those read. -/
def membersFrom (nesting : Nat) (first : Bool) (done : Members) (text : List Char) :
    Step Members text :=
  match skipBlanks text with
  | ⟨[], _⟩ => .error (.peeking .endInObject [])
  | ⟨c :: cs, h⟩ =>
    have : cs.length < text.length := h
    if c = '\x7d' then .ok (done, ⟨cs, h⟩)
    else if first then
      if c = '"' then member nesting done cs (Nat.le_of_lt h)
      else .error (.peeking .keyNotString (c :: cs))
    else if c = ',' then match skipBlanks cs with
      | ⟨[], _⟩ => .error (.peeking .endInValue [])
      | ⟨d :: ds, h'⟩ =>
        have : ds.length < text.length := Nat.lt_of_lt_of_le h' (Nat.le_of_lt h)
        if d = '"' then member nesting done ds (Nat.le_of_lt this)
        else if d = '\x7d' then .error (.peeking .trailingComma (d :: ds))
        else .error (.peeking .keyNotString (d :: ds))
    else .error (.peeking .expectedCommaOrBrace (c :: cs))
termination_by 3 * text.length + 2

/-- One member after the quote that opens its key, and those after it. -/
def member (nesting : Nat) (done : Members) (text : List Char) {whole : List Char}
    (h : text.length ≤ whole.length) : Step Members whole :=
  match stringBody [] text with
  | .error f => .error f
  | .ok (key, ⟨afterKey, hk⟩) => match skipBlanks afterKey with
    | ⟨[], _⟩ => .error (.peeking .endInObject [])
    | ⟨c :: cs, hc⟩ =>
      have : cs.length < text.length := Nat.lt_trans (Nat.lt_of_succ_le hc) hk
      if c ≠ ':' then .error (.peeking .expectedColon (c :: cs))
      else match value nesting cs with
        | .error f => .error f
        | .ok (v, ⟨rest, hr⟩) =>
          (membersFrom nesting false (done.insert key v) rest).within (by omega)
termination_by 3 * text.length + 1

end

/-- Why and where a text is not JSON. -/
structure ReadError where
  cause : ReadCause
  place : Place

/-- The wording of a read error. -/
def ReadError.text (e : ReadError) : String :=
  e.cause.text ++ " at line " ++ toString e.place.line ++ " column " ++ toString e.place.column

/-- The place of a fault in the whole text; the byte it looks past the end for does not count. -/
def Fault.inText (text : List Char) (f : Fault) : ReadError :=
  let size := byteCount text
  ⟨f.cause, Place.after text (min size (size - byteCount f.rest + f.past))⟩

/-- Read a text as one value, opening fewer than `nesting` levels. -/
def readWithin (nesting : Nat) (text : String) : Except ReadError Json :=
  let chars := text.toList
  match value nesting chars with
  | .error f => .error (f.inText chars)
  | .ok (v, ⟨rest, _⟩) => match skipBlanks rest with
    | ⟨[], _⟩ => .ok v
    | ⟨c :: cs, _⟩ => .error ((Fault.peeking .trailingCharacters (c :: cs)).inText chars)

/-- Read a text as one value of at most 127 levels. -/
def read (text : String) : Except ReadError Json := readWithin 128 text

end Json

end ApiContract
