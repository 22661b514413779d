import ApiContract.Proofs.Text.LetterCase
import Mathlib.Data.List.TakeWhile

/-!
# Proofs/Text/Blank — trimmed texts

A text is bare when no blank stands at its ends (`Text.Bare`): what trimming makes of a text is bare
(`Text.bare_trimChars`), and what is bare is left as it is (`Text.trimChars_of_bare`).  Blanks
around a text are trimmed away (`Text.trimChars_padded`).  Neither folding is in the way of that:
the letters of ASCII are no blanks (`Text.trimChars_map_toLower`), and **`Text.bare_lowerChars`**:
the lower case of a bare text is bare.
-/

namespace ApiContract.Text

/-- **No blank at an end** of a text. -/
structure Bare (cs : List Char) : Prop where
  first : ∀ c ∈ cs.head?, isBlank c = false
  last : ∀ c ∈ cs.getLast?, isBlank c = false

section Trim

variable {cs before after : List Char}

theorem dropWhile_isBlank_of_head (h : ∀ c ∈ cs.head?, isBlank c = false) :
    cs.dropWhile isBlank = cs := by
  cases cs with
  | nil => rfl
  | cons c cs => rw [List.dropWhile_cons, h c rfl, if_neg Bool.false_ne_true]

theorem isBlank_head_dropWhile (cs : List Char) :
    ∀ c ∈ (cs.dropWhile isBlank).head?, isBlank c = false := by
  intro c hc
  have hnot := List.head?_dropWhile_not isBlank cs
  rwa [hc] at hnot

/-- **What is trimmed is bare.** -/
theorem bare_trimChars (cs : List Char) : Bare (trimChars cs) := by
  constructor
  · -- what is left after the second end was trimmed begins as it did before
    obtain ⟨rest, hrest⟩ := List.dropWhile_suffix isBlank (l := (cs.dropWhile isBlank).reverse)
    intro c hc
    refine isBlank_head_dropWhile cs c ?_
    have happend : trimChars cs ++ rest.reverse = cs.dropWhile isBlank := by
      rw [trimChars, ← List.reverse_append, hrest, List.reverse_reverse]
    rw [← happend, List.head?_append, hc]
    rfl
  · intro c hc
    rw [trimChars, List.getLast?_reverse] at hc
    exact isBlank_head_dropWhile _ c hc

/-- **What is bare is trimmed.** -/
theorem trimChars_of_bare (h : Bare cs) : trimChars cs = cs := by
  have hlast : ∀ c ∈ cs.reverse.head?, isBlank c = false := by
    rw [List.head?_reverse]
    exact h.last
  rw [trimChars, dropWhile_isBlank_of_head h.first, dropWhile_isBlank_of_head hlast,
    List.reverse_reverse]

theorem mem_of_mem_trimChars {c : Char} (h : c ∈ trimChars cs) : c ∈ cs := by
  have hsecond := List.dropWhile_subset isBlank (List.mem_reverse.1 h)
  exact List.dropWhile_subset isBlank (List.mem_reverse.1 hsecond)

/-- **Blanks around a text** are trimmed away. -/
theorem trimChars_padded (hb : ∀ c ∈ before, isBlank c = true)
    (ha : ∀ c ∈ after, isBlank c = true) : trimChars (before ++ cs ++ after) = trimChars cs := by
  have hafter : ∀ c ∈ after.reverse, isBlank c = true := fun c hc => ha c (List.mem_reverse.1 hc)
  rw [trimChars, trimChars, List.append_assoc, List.dropWhile_append_of_pos hb,
    List.dropWhile_append]
  split_ifs with hcs
  · rw [List.dropWhile_eq_nil_iff.2 ha, List.isEmpty_iff.1 hcs]
  · rw [List.reverse_append, List.dropWhile_append_of_pos hafter]

end Trim

/-! ## Trimming and letter case -/

section LetterCase

variable {c : Char} {cs before : List Char}

theorem isBlank_of_isAlpha (h : c.isAlpha = true) : isBlank c = false := by
  have hletter := isAlpha_iff.1 h
  have hascii : c.toNat < 0x80 := by omega
  exact forall_ascii (P := fun c => c.isAlpha = true → isBlank c = false) (by decide) hascii h

theorem isBlank_toLower (c : Char) : isBlank c.toLower = isBlank c := by
  rcases toLower_eq_or c with h | ⟨h, h'⟩
  · rw [h]
  · rw [isBlank_of_isAlpha h, isBlank_of_isAlpha h']

theorem trimChars_map_toLower :
    trimChars (cs.map Char.toLower) = (trimChars cs).map Char.toLower := by
  have hblank : isBlank ∘ Char.toLower = isBlank := funext isBlank_toLower
  simp only [trimChars, List.dropWhile_map, ← List.map_reverse, hblank]

/-- In lower case a character puts something in front of the rest, and there no blank but for a
blank. -/
theorem exists_lowerChars_cons (before : List Char) (c : Char) (cs : List Char) :
    ∃ d ds, lowerChars before (c :: cs) = d :: ds ++ lowerChars (c :: before) cs ∧
      (isBlank c = false → ∀ e ∈ d :: ds, isBlank e = false) := by
  rw [lowerChars]
  split_ifs with hsigma
  · exact ⟨'ς', [], rfl, fun _ => List.forall_mem_singleton.2 (by decide)⟩
  · exact ⟨'σ', [], rfl, fun _ => List.forall_mem_singleton.2 (by decide)⟩
  · obtain ⟨d, ds, hlower⟩ : ∃ d ds, lowerChar c = d :: ds := by
      have hlower := lowersTo_lowerChar c
      generalize lowerChar c = ds at hlower
      cases hlower <;> exact ⟨_, _, rfl⟩
    refine ⟨d, ds, by rw [hlower], fun hc e he => Bool.eq_false_iff.2 fun hblank => ?_⟩
    rw [isBlank_of_mem_lowerChar (hlower ▸ he) hblank] at hc
    cases hc

/-- The lower case of a text ends in no blank but for a blank at the end. -/
theorem exists_lowerChars_concat (before cs : List Char) (c : Char) :
    ∃ ds d, lowerChars before (cs ++ [c]) = ds ++ [d] ∧
      (isBlank c = false → isBlank d = false) := by
  induction cs generalizing before with
  | nil =>
    obtain ⟨d, ds, hlower, hblank⟩ := exists_lowerChars_cons before c []
    refine ⟨(d :: ds).dropLast, (d :: ds).getLast (List.cons_ne_nil _ _), ?_, fun hc => ?_⟩
    · rw [List.nil_append, hlower, lowerChars, List.append_nil, List.dropLast_append_getLast]
    · exact hblank hc _ (List.getLast_mem _)
  | cons c' cs ih =>
    obtain ⟨e, es, hfirst, -⟩ := exists_lowerChars_cons before c' (cs ++ [c])
    obtain ⟨ds, d, hrest, hblank⟩ := ih (c' :: before)
    exact ⟨e :: es ++ ds, d, by rw [List.cons_append, hfirst, hrest, List.append_assoc], hblank⟩

/-- **The lower case of a bare text is bare.** -/
theorem bare_lowerChars (h : Bare cs) : Bare (lowerChars before cs) := by
  constructor
  · cases cs with
    | nil => exact nofun
    | cons c cs =>
      obtain ⟨d, ds, hlower, hblank⟩ := exists_lowerChars_cons before c cs
      rw [hlower]
      intro e he
      obtain rfl : d = e := Option.some.inj he
      exact hblank (h.first c rfl) d List.mem_cons_self
  · rcases List.eq_nil_or_concat' cs with rfl | ⟨cs, c, rfl⟩
    · exact nofun
    · obtain ⟨ds, d, hlower, hblank⟩ := exists_lowerChars_concat before cs c
      rw [hlower, List.getLast?_concat]
      intro e he
      obtain rfl : d = e := Option.some.inj he
      exact hblank (h.last c List.getLast?_concat)

end LetterCase

end ApiContract.Text
