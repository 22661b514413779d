import ApiContract.Numeral.Binary64
import Mathlib.Algebra.Order.Field.Rat
import Mathlib.Algebra.Order.Ring.Cast
import Mathlib.Data.Int.Cast.Lemmas

/-!
# Proofs/Numeral/Binary64 — the integers among the double-precision numbers

A number whose value is an integer is what that integer rounds to (`ofInt_eq_of_toRat`): its
exponent is the one at which the integer has 53 bits, and the quotient that is rounded there is its
significand.  So rounding leaves the value of an integer as it is exactly when some number has that
value, **`toRat_ofInt_eq_iff`**.
-/

namespace ApiContract.Binary64

variable {x : Binary64} {n : Int} {num m : Nat}

/-! ## Values -/

/-- The value without its sign. -/
def magnitude (x : Binary64) : Rat :=
  (x.significand * 2 ^ x.exponent.toNat : Nat) / (2 ^ (-x.exponent).toNat : Nat)

theorem magnitude_nonneg : 0 ≤ x.magnitude :=
  div_nonneg (Nat.cast_nonneg _) (Nat.cast_nonneg _)

theorem toRat_eq : x.toRat = if x.negative then -x.magnitude else x.magnitude := rfl

theorem toRat_eq_zero (h : x.significand = 0) : x.toRat = 0 := by
  rw [toRat_eq, magnitude, h, zero_mul, Nat.cast_zero, zero_div, neg_zero, ite_self]

/-- An integer that is a number's value is its fraction, the sign apart. -/
theorem natAbs_mul_eq (h : x.toRat = n) :
    n.natAbs * 2 ^ (-x.exponent).toNat = x.significand * 2 ^ x.exponent.toNat := by
  have habs : (n.natAbs : Rat) = x.magnitude := by
    rw [Nat.cast_natAbs, Int.cast_abs, ← h, toRat_eq]
    split
    · rw [abs_neg, abs_of_nonneg magnitude_nonneg]
    · rw [abs_of_nonneg magnitude_nonneg]
  rw [magnitude, eq_div_iff (Nat.cast_ne_zero.2 (Nat.two_pow_pos _).ne')] at habs
  exact_mod_cast habs

/-- The sign of a value other than zero is that of its number. -/
theorem negative_eq (h : x.toRat = n) (hn : n ≠ 0) : x.negative = decide (n < 0) := by
  have hsign : (n : Rat) < 0 ↔ x.negative = true := by
    rw [← h, toRat_eq]
    have hpos : 0 < x.magnitude := by
      refine magnitude_nonneg.lt_of_ne' fun hzero => hn ?_
      rw [toRat_eq, hzero, neg_zero, ite_self] at h
      exact_mod_cast h.symm
    split
    next hneg => exact iff_of_true (neg_neg_of_pos hpos) hneg
    next hneg => exact iff_of_false hpos.not_gt hneg
  rw [Int.cast_lt_zero] at hsign
  rw [Bool.eq_iff_iff, decide_eq_true_iff, hsign]

/-! ## Rounding what is a number already -/

theorem roundQuotient_mul_self (hm : 0 < m) : roundQuotient (num * m) m = num := by
  unfold roundQuotient
  rw [Nat.mul_mod_left, Nat.mul_div_cancel num hm]
  exact if_pos hm

theorem log2_mul_two_pow (hnum : num ≠ 0) : (num * 2 ^ m).log2 = num.log2 + m := by
  induction m with
  | zero => rw [pow_zero, mul_one, Nat.add_zero]
  | succ m ih =>
    have hm : num * 2 ^ m ≠ 0 := Nat.mul_ne_zero hnum (Nat.two_pow_pos m).ne'
    rw [pow_succ, ← mul_assoc, mul_comm, Nat.log2_two_mul hm, ih, Nat.add_assoc]

/-- **A number whose value is an integer** other than zero has 53 bits. -/
theorem log2_significand (h : x.toRat = n) (hn : n ≠ 0) : x.significand.log2 = 52 := by
  obtain ⟨hlt, -, -, hnormal⟩ := x.canonical
  have hbits : 2 ^ 52 ≤ x.significand := by
    -- a number below the normal ones is less than one
    refine hnormal.resolve_right fun hleast => Nat.lt_irrefl (2 ^ 53) ?_
    calc 2 ^ 53 ≤ 2 ^ (-x.exponent).toNat := Nat.pow_le_pow_right Nat.two_pos (by omega)
      _ ≤ n.natAbs * 2 ^ (-x.exponent).toNat := Nat.le_mul_of_pos_left _ (Int.natAbs_pos.2 hn)
      _ = x.significand * 2 ^ x.exponent.toNat := natAbs_mul_eq h
      _ = x.significand := by rw [Int.toNat_eq_zero.2 (by omega), pow_zero, mul_one]
      _ < 2 ^ 53 := hlt
  exact (Nat.log2_eq_iff (by omega)).2 ⟨hbits, hlt⟩

/-- The exponent at which an integer has 53 bits. -/
theorem unitExponent_one (hnum : num ≠ 0) : unitExponent num 1 = num.log2 - 52 := by
  have hone : Nat.log2 1 = 0 := rfl
  have hreaches : 1 * 2 ^ num.log2 ≤ num * 2 ^ 0 := by
    rw [one_mul, pow_zero, mul_one]
    exact Nat.log2_self_le hnum
  unfold unitExponent
  simp only [hone]
  rw [if_pos (by simpa using hreaches)]
  omega

/-- It is the exponent of the number that has the integer as its value. -/
theorem unitExponent_eq (h : x.toRat = n) (hn : n ≠ 0) : unitExponent n.natAbs 1 = x.exponent := by
  have hnum : n.natAbs ≠ 0 := Int.natAbs_ne_zero.2 hn
  have hlog := log2_significand h hn
  have hsignificand : x.significand ≠ 0 := by
    intro hzero
    rw [hzero, Nat.log2_zero] at hlog
    omega
  have hbits : n.natAbs.log2 + (-x.exponent).toNat = 52 + x.exponent.toNat := by
    rw [← log2_mul_two_pow hnum, natAbs_mul_eq h, log2_mul_two_pow hsignificand, hlog]
  rw [unitExponent_one hnum]
  omega

/-- **A number whose value is an integer** is what the integer rounds to, zero apart. -/
theorem ofInt_eq_of_toRat (h : x.toRat = n) (hn : n ≠ 0) : ofInt n = x := by
  have hquotient : roundQuotient (n.natAbs * 2 ^ (-x.exponent).toNat) (1 * 2 ^ x.exponent.toNat) =
      x.significand := by
    rw [natAbs_mul_eq h, one_mul, roundQuotient_mul_self (Nat.two_pow_pos _)]
  have hcarry : x.significand ≠ 0x20000000000000 := x.canonical.1.ne
  have hnearest : nearest? (decide (n < 0)) n.natAbs 1 =
      ofParts? x.negative x.significand x.exponent := by
    unfold nearest?
    rw [if_neg (Int.natAbs_ne_zero.2 hn), unitExponent_eq h hn]
    simp only [Nat.pow_eq, hquotient]
    rw [if_neg hcarry, negative_eq h hn]
  rw [ofInt, hnearest, ofParts?, dif_pos x.canonical, Option.getD_some]

/-- **Rounding an integer keeps its value** exactly when a number has that value. -/
theorem toRat_ofInt_eq_iff : (ofInt n).toRat = n ↔ ∃ x : Binary64, x.toRat = n := by
  refine ⟨fun h => ⟨_, h⟩, fun ⟨x, h⟩ => ?_⟩
  by_cases hn : n = 0
  · subst hn
    exact toRat_eq_zero rfl
  · rw [ofInt_eq_of_toRat h hn, h]

end ApiContract.Binary64
