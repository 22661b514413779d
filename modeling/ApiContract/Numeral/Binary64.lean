/-!
# Numeral/Binary64 — the finite double-precision numbers

A value is a sign and `significand · 2 ^ exponent` in the one canonical choice of the two, so
equality of values is equality of records.  Everything is exact `Nat` arithmetic: `nearest?` rounds
a quotient to the nearest value, a half to the even significand, and answers `none` where that value
is infinite.
-/

namespace ApiContract

/-- The canonical significands and exponents: 53 bits, the top one set unless the exponent is
least. -/
def Binary64.Canonical (significand : Nat) (exponent : Int) : Prop :=
  significand < 0x20000000000000 ∧ -1074 ≤ exponent ∧ exponent ≤ 971 ∧
    (0x10000000000000 ≤ significand ∨ exponent = -1074)

instance (m : Nat) (e : Int) : Decidable (Binary64.Canonical m e) :=
  inferInstanceAs (Decidable (_ ∧ _))

/-- A finite double-precision number; both zeros are values, infinities and NaN are not. -/
structure Binary64 where
  negative : Bool
  significand : Nat
  exponent : Int
  canonical : Binary64.Canonical significand exponent
  deriving DecidableEq

namespace Binary64

/-- The zero of a sign. -/
def zero (negative : Bool) : Binary64 := ⟨negative, 0, -1074, by decide⟩

instance : Inhabited Binary64 := ⟨zero false⟩

/-- The value of a sign, significand and exponent in canonical form. -/
def ofParts? (negative : Bool) (significand : Nat) (exponent : Int) : Option Binary64 :=
  if h : Canonical significand exponent then some ⟨negative, significand, exponent, h⟩ else none

/-- The value with the other sign. -/
def neg (x : Binary64) : Binary64 := { x with negative := !x.negative }

/-- Both zeros. -/
def isZero (x : Binary64) : Bool := x.significand == 0

/-- The exact mathematical value; the two zeros share it. -/
def toRat (x : Binary64) : Rat :=
  let magnitude : Rat :=
    (x.significand * Nat.pow 2 x.exponent.toNat : Nat) / (Nat.pow 2 (-x.exponent).toNat : Nat)
  if x.negative then -magnitude else magnitude

/-- The integer nearest to `num / den`, a half going to the even one. -/
def roundQuotient (num den : Nat) : Nat :=
  let q := num / den
  let twice := 2 * (num % den)
  if twice < den then q
  else if den < twice then q + 1
  else if q % 2 = 0 then q else q + 1

/-- The exponent at which `num / den` has 53 bits, or the least one. -/
def unitExponent (num den : Nat) : Int :=
  let d : Int := num.log2 - den.log2
  let reaches := den * Nat.pow 2 d.toNat ≤ num * Nat.pow 2 (-d).toNat
  max (if reaches then d - 52 else d - 53) (-1074)

/-- The value nearest to `num / den`, a half going to the even significand; `none` beyond the
range. -/
def nearest? (negative : Bool) (num den : Nat) : Option Binary64 :=
  if num = 0 then some (zero negative) else
    let e := unitExponent num den
    let m := roundQuotient (num * Nat.pow 2 (-e).toNat) (den * Nat.pow 2 e.toNat)
    if m = 0x20000000000000 then ofParts? negative 0x10000000000000 (e + 1)
    else ofParts? negative m e

/-- The value nearest to `digits · 10 ^ exponent`.  Exponents beyond every value's reach are
answered without computing the power. -/
def ofDecimal? (negative : Bool) (digits : Nat) (exponent : Int) : Option Binary64 :=
  if digits = 0 then some (zero negative)
  else if 400 < exponent then none
  else if exponent + digits.log2 < -1200 then some (zero negative)
  else nearest? negative (digits * Nat.pow 10 exponent.toNat) (Nat.pow 10 (-exponent).toNat)

/-- The value nearest to an integer. -/
def ofInt (n : Int) : Binary64 := (nearest? (n < 0) n.natAbs 1).getD (zero false)

/-- The rounded product. -/
def mul? (x y : Binary64) : Option Binary64 :=
  let e := x.exponent + y.exponent
  nearest? (x.negative != y.negative) (x.significand * y.significand * Nat.pow 2 e.toNat)
    (Nat.pow 2 (-e).toNat)

/-- The rounded quotient; `none` beyond the range or for a zero divisor. -/
def div? (x y : Binary64) : Option Binary64 :=
  if y.isZero then none else
    let e := x.exponent - y.exponent
    nearest? (x.negative != y.negative) (x.significand * Nat.pow 2 e.toNat)
      (y.significand * Nat.pow 2 (-e).toNat)

/-- Numeric equality: the two zeros are equal. -/
def same (x y : Binary64) : Bool := x == y || (x.isZero && y.isZero)

end Binary64

end ApiContract
