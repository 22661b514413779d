import ApiContract.Proofs.Text.LowerCase
import ApiContract.Proofs.Traffic.Parameters

/-!
# Proofs/Traffic/Decimal — positive integers and their decimal forms

The values of an integer parameter are the decimal forms of the positive numbers, as the numbers are
printed: no sign, no zero ahead, no digit but those of ASCII, and no bound.  Digits that follow a
positive number are printed back from its value (`toDigits_ofDigitChars`), and no positive number is
printed with a zero ahead (`toDigits_eq_cons`).  **`isPositiveDecimal_canonical`** joins the two.
The bytes of UTF-8 tell such a text as well as its characters do, since beyond ASCII no character
begins with the byte of a digit (`isPositiveDecimal_eq_bytes`).
-/

namespace ApiContract

/-! ## Numbers and their digits -/

section Digits

variable {c : Char} {cs : List Char} {n : Nat} {s : String}

theorem isDigit_iff_toNat : c.isDigit = true ↔ 48 ≤ c.toNat ∧ c.toNat ≤ 57 := by
  rw [isDigit_iff]
  rfl

/-- A digit is below ten and the decimal form of its value. -/
theorem toDigits_of_isDigit (h : c.isDigit = true) :
    c.toNat - '0'.toNat < 10 ∧ Nat.toDigits 10 (c.toNat - '0'.toNat) = [c] := by
  have hall : ∀ n < 0x80, (Char.ofNat n).isDigit = true →
      (Char.ofNat n).toNat - '0'.toNat < 10 ∧
        Nat.toDigits 10 ((Char.ofNat n).toNat - '0'.toNat) = [Char.ofNat n] := by
    decide
  have hascii : c.toNat < 0x80 := by
    have hbound := isDigit_iff_toNat.1 h
    omega
  exact Text.forall_ascii (P := fun c => c.isDigit = true → c.toNat - '0'.toNat < 10 ∧
    Nat.toDigits 10 (c.toNat - '0'.toNat) = [c]) hall hascii h

/-- **Digits behind a positive number** are printed behind it.  The induction is on them, over the
number that those before have made. -/
theorem toDigits_ofDigitChars (hn : 0 < n) (h : ∀ c ∈ cs, c.isDigit = true) :
    Nat.toDigits 10 (Nat.ofDigitChars 10 cs n) = Nat.toDigits 10 n ++ cs := by
  induction cs generalizing n with
  | nil => exact (List.append_nil _).symm
  | cons c cs ih =>
    obtain ⟨hc, hcs⟩ := List.forall_mem_cons.1 h
    obtain ⟨hlt, hdigit⟩ := toDigits_of_isDigit hc
    calc
      Nat.toDigits 10 (Nat.ofDigitChars 10 (c :: cs) n)
        = Nat.toDigits 10 (10 * n + (c.toNat - '0'.toNat)) ++ cs := by
        rw [Nat.ofDigitChars_cons, ih (by omega) hcs]
      _ = (Nat.toDigits 10 n ++ [c]) ++ cs := by
        rw [← Nat.toDigits_append_toDigits (by decide) hn hlt, hdigit]
      _ = Nat.toDigits 10 n ++ c :: cs := by rw [List.append_assoc, List.singleton_append]

/-- **No positive number has a zero ahead.** -/
theorem toDigits_eq_cons (hn : 0 < n) : ∃ c cs, Nat.toDigits 10 n = c :: cs ∧ c ≠ '0' := by
  induction n using Nat.strongRecOn with
  | ind n ih =>
    rcases Nat.lt_or_ge n 10 with hlt | hge
    · have hdigit : ∀ m < 10, 0 < m → Nat.digitChar m ≠ '0' := by decide
      exact ⟨_, [], Nat.toDigits_of_lt_base hlt, hdigit n hlt hn⟩
    · obtain ⟨c, cs, hquotient, hc⟩ := ih (n / 10) (by omega) (by omega)
      refine ⟨c, cs ++ [Nat.digitChar (n % 10)], ?_, hc⟩
      rw [Nat.toDigits_of_base_le (by decide) hge, hquotient]
      rfl

/-- A positive decimal is a digit that is not zero, and digits behind it. -/
theorem isPositiveDecimal_iff_digits :
    isPositiveDecimal s = true ↔
      ∃ c cs, s.toList = c :: cs ∧ (c.isDigit = true ∧ c ≠ '0') ∧ ∀ d ∈ cs, d.isDigit = true := by
  rw [isPositiveDecimal_iff]
  simp only [isDigit_iff, digit_ne_zero_iff]

/-- What digits stand for. -/
def decimalValue (s : String) : Nat := Nat.ofDigitChars 10 s.toList 0

theorem decimalValue_toString (n : Nat) : decimalValue (toString n) = n := by
  rw [decimalValue, Nat.toString_eq_repr, Nat.toList_repr,
    Nat.ofDigitChars_toDigits (by decide) (by decide)]

/-- A positive number passes as it is printed. -/
theorem isPositiveDecimal_toString (hn : 1 ≤ n) : isPositiveDecimal (toString n) = true := by
  obtain ⟨c, cs, hprinted, hc⟩ := toDigits_eq_cons hn
  have hdigits : ∀ d ∈ c :: cs, d.isDigit = true := fun d hd =>
    Nat.isDigit_of_mem_toDigits (by decide) (by decide) (hprinted ▸ hd)
  obtain ⟨hfirst, hrest⟩ := List.forall_mem_cons.1 hdigits
  exact isPositiveDecimal_iff_digits.2 ⟨c, cs, Nat.toList_repr.trans hprinted, ⟨hfirst, hc⟩, hrest⟩

/-- What passes is positive and the printed form of its value. -/
theorem toString_decimalValue (h : isPositiveDecimal s = true) :
    1 ≤ decimalValue s ∧ toString (decimalValue s) = s := by
  obtain ⟨c, cs, hs, ⟨hc, hzero⟩, hcs⟩ := isPositiveDecimal_iff_digits.1 h
  obtain ⟨-, hdigit⟩ := toDigits_of_isDigit hc
  have hpos : 0 < c.toNat - '0'.toNat := by
    have hbound := isDigit_iff_toNat.1 hc
    have hne : c.toNat ≠ '0'.toNat := fun he => hzero (Char.toNat_inj.1 he)
    change 0 < c.toNat - 48
    change c.toNat ≠ 48 at hne
    omega
  have hprinted : Nat.toDigits 10 (decimalValue s) = s.toList := by
    rw [decimalValue, hs, Nat.ofDigitChars_cons, Nat.mul_zero, Nat.zero_add,
      toDigits_ofDigitChars hpos hcs, hdigit]
    rfl
  refine ⟨Nat.pos_of_ne_zero fun hz => ?_, String.toList_injective (Nat.toList_repr.trans hprinted)⟩
  -- the form of zero has the zero ahead that the text has not
  rw [hz, hs] at hprinted
  exact hzero (List.cons.inj hprinted).1.symm

end Digits

/-! ## The bytes of a decimal form -/

/-- A byte of a digit. -/
def isDigitByte (b : UInt8) : Bool := 48 ≤ b && b ≤ 57

/-- The bytes of a positive integer in its decimal form: digits, the first of which is not zero. -/
def isPositiveDecimalBytes : List UInt8 → Bool
  | [] => false
  | b :: bs => 49 ≤ b && b ≤ 57 && bs.all isDigitByte

section Bytes

variable {c : Char} {cs : List Char}

/-- In ASCII a character is one byte, which is that of a digit when the character is one. -/
theorem utf8EncodeChar_of_ascii (h : c.toNat < 0x80) :
    String.utf8EncodeChar c = [c.val.toUInt8] ∧
      isDigitByte c.val.toUInt8 = c.isDigit ∧
      (49 ≤ c.val.toUInt8 && c.val.toUInt8 ≤ 57) = (c.isDigit && c != '0') :=
  Text.forall_ascii (P := fun c => String.utf8EncodeChar c = [c.val.toUInt8] ∧
    isDigitByte c.val.toUInt8 = c.isDigit ∧
    (49 ≤ c.val.toUInt8 && c.val.toUInt8 ≤ 57) = (c.isDigit && c != '0')) (by decide +kernel) h

/-- Beyond ASCII a character begins with a byte beyond ASCII. -/
theorem utf8EncodeChar_of_beyond (h : 0x80 ≤ c.toNat) :
    ∃ b bs, String.utf8EncodeChar c = b :: bs ∧ 0x80 ≤ b := by
  have hlead : ∀ n < 256,
      0x80 ≤ (UInt8.ofNat n &&& 31 ||| 192) ∧ 0x80 ≤ (UInt8.ofNat n &&& 15 ||| 224) ∧
        0x80 ≤ (UInt8.ofNat n &&& 7 ||| 240) := by
    decide +kernel
  have hall (b : UInt8) :
      0x80 ≤ (b &&& 31 ||| 192) ∧ 0x80 ≤ (b &&& 15 ||| 224) ∧ 0x80 ≤ (b &&& 7 ||| 240) :=
    UInt8.ofNat_toNat (x := b) ▸ hlead b.toNat b.toNat_lt
  rcases Char.utf8Size_eq c with hsize | hsize | hsize | hsize
  · have hascii := UInt32.le_iff_toNat_le.1 (Char.utf8Size_eq_one_iff.1 hsize)
    change c.toNat ≤ 127 at hascii
    omega
  · exact ⟨_, _, String.utf8EncodeChar_eq_cons_cons hsize, (hall _).1⟩
  · exact ⟨_, _, String.utf8EncodeChar_eq_cons_cons_cons hsize, (hall _).2.1⟩
  · exact ⟨_, _, String.utf8EncodeChar_eq_cons_cons_cons_cons hsize, (hall _).2.2⟩

/-- No byte beyond ASCII is that of a digit. -/
theorem not_le_of_beyond {b : UInt8} (h : 0x80 ≤ b) : ¬ b ≤ 57 :=
  fun hle => absurd (UInt8.le_trans h hle) (by decide)

/-- No character beyond ASCII is a digit. -/
theorem isDigit_of_beyond (h : 0x80 ≤ c.toNat) : c.isDigit = false := by
  rw [← Bool.not_eq_true, isDigit_iff_toNat]
  omega

/-- Digits are told by their bytes. -/
theorem all_isDigitByte :
    (cs.flatMap String.utf8EncodeChar).all isDigitByte = cs.all Char.isDigit := by
  rw [List.all_flatMap]
  refine List.all_congr rfl fun c => ?_
  rcases Nat.lt_or_ge c.toNat 0x80 with hascii | hbeyond
  · obtain ⟨hbyte, hdigit, -⟩ := utf8EncodeChar_of_ascii hascii
    rw [hbyte, List.all_cons, hdigit, List.all_nil, Bool.and_true]
  · obtain ⟨b, bs, hbytes, hb⟩ := utf8EncodeChar_of_beyond hbeyond
    simp [hbytes, isDigitByte, isDigit_of_beyond hbeyond, not_le_of_beyond hb]

/-- **The bytes tell what the characters tell.** -/
theorem isPositiveDecimal_eq_bytes (s : String) :
    isPositiveDecimal s = isPositiveDecimalBytes s.toUTF8.data.toList := by
  have hbytes : s.toUTF8.data.toList = s.toList.flatMap String.utf8EncodeChar := by
    rw [String.toUTF8, ← String.utf8Encode_toList, List.utf8Encode, List.toList_data_toByteArray]
  unfold isPositiveDecimal
  rw [hbytes]
  cases s.toList with
  | nil => rfl
  | cons c cs =>
    rw [List.flatMap_cons]
    rcases Nat.lt_or_ge c.toNat 0x80 with hascii | hbeyond
    · obtain ⟨hbyte, -, hfirst⟩ := utf8EncodeChar_of_ascii hascii
      rw [hbyte, List.singleton_append, isPositiveDecimalBytes, hfirst, all_isDigitByte]
    · obtain ⟨b, bs, hbeyondBytes, hb⟩ := utf8EncodeChar_of_beyond hbeyond
      simp [hbeyondBytes, isPositiveDecimalBytes, isDigit_of_beyond hbeyond, not_le_of_beyond hb]

end Bytes

/-- **What passes is what is printed.**  A text passes as a positive integer when it is the decimal
form of a number from one on, however large.  The value of a printed number is the number, so texts
that pass and differ have different values.  The check may look at the bytes of the text instead of
its characters. -/
theorem isPositiveDecimal_canonical :
    (∀ s, isPositiveDecimal s = true ↔ ∃ n, 1 ≤ n ∧ s = toString n) ∧
    (∀ n, decimalValue (toString n) = n) ∧
    (∀ s t, isPositiveDecimal s = true → isPositiveDecimal t = true → s ≠ t →
      decimalValue s ≠ decimalValue t) ∧
    ∀ s, isPositiveDecimal s = isPositiveDecimalBytes s.toUTF8.data.toList := by
  refine ⟨fun s => ⟨fun h => ?_, ?_⟩, decimalValue_toString, ?_, isPositiveDecimal_eq_bytes⟩
  · obtain ⟨hpos, hprinted⟩ := toString_decimalValue h
    exact ⟨decimalValue s, hpos, hprinted.symm⟩
  · rintro ⟨n, hn, rfl⟩
    exact isPositiveDecimal_toString hn
  · intro s t hs ht hne hvalue
    refine hne ?_
    rw [← (toString_decimalValue hs).2, hvalue, (toString_decimalValue ht).2]

/-- Two numbers that no machine word holds are told apart. -/
theorem decimalValue_ne_of_ne :
    isPositiveDecimal "9000000000000000000000" = true ∧
      isPositiveDecimal "9000000000000000000001" = true ∧
      "9000000000000000000000" ≠ "9000000000000000000001" ∧
      decimalValue "9000000000000000000000" ≠ decimalValue "9000000000000000000001" :=
  ⟨by decide, by decide, by decide, isPositiveDecimal_canonical.2.2.1 "9000000000000000000000"
    "9000000000000000000001" (by decide) (by decide) (by decide)⟩

end ApiContract
