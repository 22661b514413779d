import ApiContract.Proofs.Text.LowerCase
import Mathlib.Data.Bool.AllAny
import Mathlib.Data.List.Forall2

/-!
# Proofs/Text/LetterCase — texts that differ in the case of ASCII letters

Two texts are recased forms of one another when they have the same letters of ASCII in the same
places, in either case, and are alike in all else (`Text.Recased`): these are the texts with one
ASCII lower case (`Text.recased_iff`).  The context of a final sigma does not tell letters of ASCII
by their case, so recased texts have one lower case as well (`Text.Recased.lowerCase_eq`).
**`Text.SmallWord.lowerCase_eq_iff`** is the converse for words of small letters of ASCII without
`k`, which the sign of Kelvin becomes too: only recased forms of such a word have it for their lower
case.
-/

namespace ApiContract

namespace Text

/-- **One letter of ASCII in either case**, or one character. -/
inductive SameLetter : Char → Char → Prop
  | same {c : Char} : SameLetter c c
  | small {c d : Char} (h : c.isUpper = true) (hd : d.toNat = c.toNat + 32) : SameLetter c d
  | capital {c d : Char} (h : d.isUpper = true) (hc : c.toNat = d.toNat + 32) : SameLetter c d

/-- **A recased form of a text**: letters of ASCII may have changed their case. -/
def Recased (s t : String) : Prop := List.Forall₂ SameLetter s.toList t.toList

section Letters

variable {c d : Char}

theorem isUpper_iff : c.isUpper = true ↔ 65 ≤ c.toNat ∧ c.toNat ≤ 90 := decide_eq_true_iff

theorem isAlpha_iff :
    c.isAlpha = true ↔ 65 ≤ c.toNat ∧ c.toNat ≤ 90 ∨ 97 ≤ c.toNat ∧ c.toNat ≤ 122 := by
  have hlower : c.isLower = true ↔ 97 ≤ c.toNat ∧ c.toNat ≤ 122 :=
    Bool.and_eq_true_iff.trans (and_congr decide_eq_true_iff decide_eq_true_iff)
  exact Bool.or_eq_true_iff.trans (or_congr isUpper_iff hlower)

/-- A capital of ASCII and its small letter are 32 places apart. -/
theorem toNat_toLower (h : c.isUpper = true) : c.toLower.toNat = c.toNat + 32 := by
  have hall : ∀ n < 0x80, (Char.ofNat n).isUpper = true →
      (Char.ofNat n).toLower.toNat = (Char.ofNat n).toNat + 32 := by
    decide
  have hbound := isUpper_iff.1 h
  exact forall_ascii (P := fun c => c.isUpper = true → c.toLower.toNat = c.toNat + 32) hall
    (by omega) h

/-- The folding of ASCII leaves a character as it is or makes one of its letters another. -/
theorem toLower_eq_or (c : Char) : c.toLower = c ∨ c.isAlpha = true ∧ c.toLower.isAlpha = true := by
  cases h : c.isUpper with
  | false => exact .inl (toLower_of_isUpper_eq_false h)
  | true =>
    have hbound := isUpper_iff.1 h
    have hlower := toNat_toLower h
    exact .inr ⟨isAlpha_iff.2 (.inl hbound), isAlpha_iff.2 (.inr (by omega))⟩

theorem sameLetter_iff : SameLetter c d ↔ c.toLower = d.toLower := by
  constructor
  · rintro (_ | ⟨h, hd⟩ | ⟨h, hc⟩)
    · rfl
    · have hbound := isUpper_iff.1 h
      rw [toLower_of_isUpper_eq_false (isUpper_of_lt_toNat (c := d) (by omega)), ← Char.toNat_inj,
        toNat_toLower h, hd]
    · have hbound := isUpper_iff.1 h
      rw [toLower_of_isUpper_eq_false (isUpper_of_lt_toNat (c := c) (by omega)), ← Char.toNat_inj,
        toNat_toLower h, hc]
  · intro h
    have hnat : c.toLower.toNat = d.toLower.toNat := congrArg Char.toNat h
    cases hc : c.isUpper <;> cases hd : d.isUpper
    · rw [toLower_of_isUpper_eq_false hc, toLower_of_isUpper_eq_false hd] at h
      exact h ▸ .same
    · rw [toLower_of_isUpper_eq_false hc, toNat_toLower hd] at hnat
      exact .capital hd hnat
    · rw [toLower_of_isUpper_eq_false hd, toNat_toLower hc] at hnat
      exact .small hc hnat.symm
    · rw [toNat_toLower hc, toNat_toLower hd, Nat.add_right_cancel_iff, Char.toNat_inj] at hnat
      exact hnat ▸ .same

end Letters

/-- **The recased forms of a text** are those with its ASCII lower case. -/
theorem recased_iff {s t : String} : Recased s t ↔ asciiLower s = asciiLower t := by
  have hfold : List.Forall₂ SameLetter s.toList t.toList ↔
      s.toList.map Char.toLower = t.toList.map Char.toLower := by
    rw [← List.forall₂_eq_eq_eq, List.forall₂_map_left_iff, List.forall₂_map_right_iff]
    exact ⟨.imp fun _ _ => sameLetter_iff.1, .imp fun _ _ => sameLetter_iff.2⟩
  exact hfold.trans ⟨congrArg String.ofList, fun h => String.ofList_injective h⟩

/-! ## The context of a final sigma -/

/-- All letters of ASCII are cased. -/
theorem letters_mem_casedRanges : (65, 90) ∈ casedRanges ∧ (97, 122) ∈ casedRanges := by
  unfold casedRanges Unicode.readRanges Unicode.tableWords casedTable
  simp only [List.flatMap_cons, List.flatMap_nil]
  repeat rw [String.toList_ofList]
  decide +kernel

/-- No letter of ASCII is passed over. -/
theorem caseIgnorableRanges_outside :
    ∀ r ∈ caseIgnorableRanges, r.2 < 65 ∨ 90 < r.1 ∧ r.2 < 97 ∨ 122 < r.1 := by
  unfold caseIgnorableRanges Unicode.readRanges Unicode.tableWords caseIgnorableTable
  simp only [List.flatMap_cons, List.flatMap_nil]
  repeat rw [String.toList_ofList]
  decide +kernel

section Context

variable {c : Char} {before cs : List Char}

theorem cased_of_isAlpha (h : c.isAlpha = true) : casedRanges.contains c.toNat = true := by
  rw [CodeRanges.contains, List.any_eq_true]
  rcases isAlpha_iff.1 h with ⟨hge, hle⟩ | ⟨hge, hle⟩
  · exact ⟨_, letters_mem_casedRanges.1, by simp [hge, hle]⟩
  · exact ⟨_, letters_mem_casedRanges.2, by simp [hge, hle]⟩

theorem caseIgnorable_of_isAlpha (h : c.isAlpha = true) :
    caseIgnorableRanges.contains c.toNat = false := by
  rw [CodeRanges.contains, List.any_eq_false]
  intro r hr
  have houtside := caseIgnorableRanges_outside r hr
  have hletter := isAlpha_iff.1 h
  rw [Bool.and_eq_true, decide_eq_true_iff, decide_eq_true_iff]
  omega

theorem cased_toLower (c : Char) :
    casedRanges.contains c.toLower.toNat = casedRanges.contains c.toNat := by
  rcases toLower_eq_or c with h | ⟨h, h'⟩
  · rw [h]
  · rw [cased_of_isAlpha h, cased_of_isAlpha h']

theorem caseIgnorable_toLower (c : Char) :
    caseIgnorableRanges.contains c.toLower.toNat = caseIgnorableRanges.contains c.toNat := by
  rcases toLower_eq_or c with h | ⟨h, h'⟩
  · rw [h]
  · rw [caseIgnorable_of_isAlpha h, caseIgnorable_of_isAlpha h']

theorem meetsCased_map_toLower : meetsCased (cs.map Char.toLower) = meetsCased cs := by
  have hpassed : ((fun c : Char => caseIgnorableRanges.contains c.toNat) ∘ Char.toLower) =
      fun c => caseIgnorableRanges.contains c.toNat := funext caseIgnorable_toLower
  unfold meetsCased
  rw [List.dropWhile_map, hpassed]
  cases cs.dropWhile fun c => caseIgnorableRanges.contains c.toNat with
  | nil => rfl
  | cons c rest => exact cased_toLower c

end Context

/-! ## Lower case of recased texts -/

section LowerCase

variable {before cs : List Char} {s t : String}

theorem lowerChar_toLower (c : Char) : lowerChar c.toLower = lowerChar c := by
  rcases toLower_eq_or c with h | ⟨h, -⟩
  · rw [h]
  · have hascii : c.toNat < 0x80 := by
      have hletter := isAlpha_iff.1 h
      omega
    have hlower : lowerChar c = [c.toLower] := by rw [lowerChar, if_pos hascii]
    rw [hlower]
    exact (settled_of_mem_lowerChar (hlower ▸ List.mem_singleton_self _)).2

theorem toLower_eq_sigma_iff {c : Char} : c.toLower = 'Σ' ↔ c = 'Σ' := by
  rcases toLower_eq_or c with h | ⟨h, h'⟩
  · rw [h]
  · refine iff_of_false ?_ ?_
    · intro hc
      exact absurd (hc ▸ h') (by decide)
    · rintro rfl
      exact absurd h (by decide)

/-- **Lower case does not see the case of ASCII letters.** -/
theorem lowerChars_map_toLower :
    lowerChars (before.map Char.toLower) (cs.map Char.toLower) = lowerChars before cs := by
  induction cs generalizing before with
  | nil => rfl
  | cons c cs ih =>
    have hbefore : c.toLower :: before.map Char.toLower = (c :: before).map Char.toLower := rfl
    rw [List.map_cons, lowerChars, lowerChars, hbefore, ih, meetsCased_map_toLower,
      meetsCased_map_toLower, lowerChar_toLower]
    simp only [toLower_eq_sigma_iff]

/-- Recased texts have one lower case. -/
theorem Recased.lowerCase_eq (h : Recased s t) : lowerCase s = lowerCase t := by
  have hfold (s : String) : lowerCase (asciiLower s) = lowerCase s := by
    rw [lowerCase, asciiLower, String.toList_ofList]
    exact congrArg String.ofList (@lowerChars_map_toLower [] s.toList)
  rw [← hfold s, recased_iff.1 h, hfold]

end LowerCase

/-! ## Small words -/

/-- **A small word**: it is of ASCII without capitals, and has no `k`, which is the lower case of
the sign of Kelvin too. -/
structure SmallWord (word : String) : Prop where
  small : asciiLower word = word
  letters : ∀ d ∈ word.toList, d.toNat < 0x80 ∧ d ≠ 'k'

/-- **A small word is the lower case** of its recased forms and of nothing else. -/
theorem SmallWord.lowerCase_eq_iff {word s : String} (h : SmallWord word) :
    lowerCase s = word ↔ Recased word s := by
  have hlower : lowerCase word = word := by
    rw [lowerCase_of_ascii fun d hd => (h.letters d hd).1, h.small]
  constructor
  · intro hs
    have hascii : ∀ c ∈ s.toList, c.toNat < 0x80 := ascii_of_lowerCase (hs ▸ h.letters)
    rw [recased_iff, h.small, ← lowerCase_of_ascii hascii, hs]
  · intro hs
    rw [← hs.lowerCase_eq, hlower]

end Text

end ApiContract
