/-!
# Url/Name/Punycode — labels in ASCII

A label beyond ASCII is written by the form of RFC 3492: its ASCII characters first, then where the
others go, by numbers of variable length to the base 36.
-/

namespace ApiContract.Url

/-- The value of a digit to the base 36, letters first. -/
def punycodeDigit? (c : Char) : Option Nat :=
  if 'a' ≤ c && c ≤ 'z' then some (c.toNat - 'a'.toNat)
  else if c.isDigit then some (c.toNat - '0'.toNat + 26)
  else none

/-- The least digit that goes on at a position. -/
def threshold (position bias : Nat) : Nat :=
  if position ≤ bias then 1 else if bias + 26 ≤ position then 26 else position - bias

/-- Divide as long as a number is large, counting. -/
def reduce (delta steps : Nat) : Nat × Nat :=
  if 455 < delta then reduce (delta / 35) (steps + 36) else (delta, steps)
termination_by delta
decreasing_by exact Nat.div_lt_self (by omega) (by omega)

/-- The bias after a number, as the `count`th character goes in. -/
def adapt (delta count : Nat) (isFirst : Bool) : Nat :=
  let scaled := if isFirst then delta / 700 else delta / 2
  let (delta, steps) := reduce (scaled + scaled / count) 0
  steps + 36 * delta / (delta + 38)

/-- A number of variable length, added to `total`, and the text after it. -/
def readDelta (bias : Nat) : (position weight total : Nat) → List Char → Option (Nat × List Char)
  | _, _, _, [] => none
  | position, weight, total, c :: rest => match punycodeDigit? c with
    | none => none
    | some d =>
      let t := threshold position bias
      let total := total + d * weight
      if d < t then some (total, rest)
      else readDelta bias (position + 36) (weight * (36 - t)) total rest

/-- Put characters where the numbers of a text tell; each number takes at least one character. -/
def insertAll (out : List Nat) (code index bias : Nat) (text : List Char) : Option (List Nat) :=
  if text.isEmpty then some out else
    match readDelta bias 36 1 index text with
    | none => none
    | some (total, rest) =>
      let count := out.length + 1
      let code := code + total / count
      let place := total % count
      if rest.length < text.length ∧ code ≤ 0x10FFFF then
        insertAll (out.take place ++ code :: out.drop place) code
          (place + 1) (adapt (total - index) count (index = 0)) rest
      else none
termination_by text.length

/-- The codes of the characters that a label writes after `xn--`. -/
def punycode? (text : List Char) : Option (List Nat) :=
  let tail := (text.reverse.takeWhile (· ≠ '-')).reverse
  let basic := (text.take (text.length - tail.length)).dropLast
  insertAll (basic.map Char.toNat) 128 0 72 tail

/-! ## Writing -/

/-- The digit to the base 36 of a value. -/
def punycodeDigit (d : Nat) : Char :=
  if d < 26 then Char.ofNat ('a'.toNat + d) else Char.ofNat ('0'.toNat + d - 26)

/-- The least digit is positive and at most 26. -/
theorem threshold_bounds (position bias : Nat) :
    1 ≤ threshold position bias ∧ threshold position bias ≤ 26 := by
  unfold threshold
  split
  · omega
  · split <;> omega

/-- The digits of a number of variable length. -/
def writeDelta (bias position n : Nat) : List Char :=
  let t := threshold position bias
  if n < t then [punycodeDigit n]
  else
    punycodeDigit (t + (n - t) % (36 - t)) ::
      writeDelta bias (position + 36) ((n - t) / (36 - t))
termination_by n
decreasing_by
  have := threshold_bounds position bias
  calc (n - threshold position bias) / (36 - threshold position bias)
      ≤ n - threshold position bias := Nat.div_le_self _ _
    _ < n := by omega

/-- What has been written of a label: the text, the number that goes on, the bias, and how many
characters have their place. -/
structure Writing where
  text : List Char
  delta : Nat := 0
  bias : Nat := 72
  count : Nat

/-- Go over a character of the label as the places of the character `code` are written; `basic` is
the number of ASCII characters. -/
def Writing.pass (basic code : Nat) (w : Writing) (n : Nat) : Writing :=
  if n < code then { w with delta := w.delta + 1 }
  else if n = code then
    { text := w.text ++ writeDelta w.bias 36 w.delta
      bias := adapt w.delta (w.count + 1) (w.count = basic)
      count := w.count + 1 }
  else w

/-- Write the places of characters, which are given in ascending order, from the character `next`
on. -/
def writePlaces (label : List Nat) (basic : Nat) : (next : Nat) → List Nat → Writing → Writing
  | _, [], w => w
  | next, code :: codes, w =>
    let w := { w with delta := w.delta + (code - next) * (w.count + 1) }
    let w := label.foldl (Writing.pass basic code) w
    writePlaces label basic (code + 1) codes { w with delta := w.delta + 1 }

/-- **The form of a label in ASCII**, without its mark at the front. -/
def writePunycode (label : List Nat) : List Char :=
  let basic := label.filter (· < 0x80)
  let others := ((label.filter (0x80 ≤ ·)).mergeSort fun a b => a ≤ b).eraseDups
  let start := basic.map Char.ofNat ++ (if basic.isEmpty then [] else ['-'])
  (writePlaces label basic.length 0x80 others { text := start, count := basic.length }).text

end ApiContract.Url
