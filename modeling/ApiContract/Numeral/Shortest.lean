import ApiContract.Numeral.Binary64

/-!
# Numeral/Shortest — the fewest decimal digits that read back

`Binary64.shortest` walks the decimal grids of 1, 2, … 17 digits and takes the first grid with a
point that rounds to the value, and of two such points the nearer.  `DecimalForm` is how the digits
are laid out; the exponents −5 … 15 are written positionally in every form.
-/

namespace ApiContract

/-- A positive decimal `digits · 10 ^ exponent`. -/
structure Decimal where
  digits : Nat
  exponent : Int
  deriving DecidableEq, Repr

namespace Decimal

/-- The digits as characters. -/
def chars (d : Decimal) : List Char := Nat.toDigits 10 d.digits

/-- Drop the zeros at the end of the digits; the fuel bounds their number. -/
def trim : Nat → Decimal → Decimal
  | 0, d => d
  | fuel + 1, d =>
    if d.digits ≠ 0 ∧ d.digits % 10 = 0 then trim fuel ⟨d.digits / 10, d.exponent + 1⟩ else d

end Decimal

namespace Binary64

/-- The number of digits before the point of `num / den`, or minus the zeros after it. -/
def pointPosition (num den : Nat) : Int :=
  if den ≤ num then (Nat.toDigits 10 (num / den)).length
  else
    let zeros : Int := (Nat.toDigits 10 (den / num)).length - 1
    if den ≤ num * Nat.pow 10 zeros.toNat then 1 - zeros else -zeros

/-- The decimal of `n` digits that reads back as the value between `low` and `high` (all over
`den`), if there is one: the nearer neighbour of `num / den` on the grid. -/
def shortestOn? (inclusive : Bool) (low num high den : Nat) (point : Int) (n : Nat) :
    Option Decimal :=
  let unit := point - n
  let up := Nat.pow 10 (-unit).toNat
  let cell := den * Nat.pow 10 unit.toNat
  let below := num * up / cell
  let reads (d : Nat) : Bool :=
    if inclusive then low * up ≤ d * cell && d * cell ≤ high * up
    else low * up < d * cell && d * cell < high * up
  let down := num * up - below * cell
  let rise := (below + 1) * cell - num * up
  let lowerFirst := down < rise || (down == rise && below % 2 == 0)
  let first := if lowerFirst then below else below + 1
  let second := if lowerFirst then below + 1 else below
  if first ≠ 0 ∧ reads first then some ⟨first, unit⟩
  else if second ≠ 0 ∧ reads second then some ⟨second, unit⟩
  else none

/-- The shortest decimal that reads back as the magnitude of a value other than zero. -/
def shortest (x : Binary64) : Decimal :=
  let e := x.exponent - 2
  let up := Nat.pow 2 e.toNat
  let den := Nat.pow 2 (-e).toNat
  let num := 4 * x.significand * up
  let low := num - (if x.significand = 0x10000000000000 ∧ x.exponent ≠ -1074 then up else 2 * up)
  let high := num + 2 * up
  let inclusive := x.significand % 2 == 0
  let point := pointPosition num den
  let found := (List.range 17).findSome? fun i =>
    shortestOn? inclusive low num high den point (i + 1)
  (found.getD ⟨num, 0⟩).trim 20

end Binary64

/-- How a decimal is laid out: whether a positive exponent carries its sign. -/
structure DecimalForm where
  signedExponent : Bool

namespace DecimalForm

/-- The text of a positive decimal: positional with at least one fraction digit while the first
digit's exponent lies in −5 … 15, and scientific beyond. -/
def positive (form : DecimalForm) (d : Decimal) : String :=
  let digits := d.chars
  let lead : Int := d.exponent + digits.length - 1
  if -5 ≤ lead ∧ lead ≤ 15 then
    if lead < 0 then
      "0." ++ String.ofList (List.replicate (-lead - 1).toNat '0' ++ digits)
    else
      let whole := digits.take (lead.toNat + 1)
      let padded := whole ++ List.replicate (lead.toNat + 1 - whole.length) '0'
      let fraction := digits.drop (lead.toNat + 1)
      String.ofList (padded ++ '.' :: (if fraction.isEmpty then ['0'] else fraction))
  else
    let mantissa := match digits with
      | first :: second :: rest => first :: '.' :: second :: rest
      | short => short
    let sign := if lead < 0 then "-" else if form.signedExponent then "+" else ""
    String.ofList mantissa ++ "e" ++ sign ++ toString lead.natAbs

/-- The text of a value. -/
def text (form : DecimalForm) (x : Binary64) : String :=
  (if x.negative then "-" else "") ++ if x.isZero then "0.0" else form.positive x.shortest

end DecimalForm

end ApiContract
