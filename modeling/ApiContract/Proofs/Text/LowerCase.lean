import ApiContract.Contract.Method
import ApiContract.Text.Blank
import ApiContract.Text.LowerCase
import Mathlib.Tactic.SplitIfs

/-!
# Proofs/Text/LowerCase — what the lower case of a text can be

The lower case of a character is one of four things (`Text.LowersTo`).  Beyond ASCII it is looked up
in runs of letters, and no image there is a letter of a run, a capital of ASCII or a blank
(`Text.covers_image`, `Text.image_outside`).  So lower case has no capital of ASCII, and folding the
ASCII letters leaves it as it is: **`asciiLower_lowerCase`**.  It is its own lower case, too:
**`lowerCase_lowerCase`**.  For a text of ASCII there is no difference between the two foldings
(`lowerCase_of_ascii`), and only a text of ASCII has a lower case of ASCII without the letter `k`
(`ascii_of_lowerCase`).
-/

namespace ApiContract

/-! ## Runs of letters -/

namespace Unicode.CaseRun

variable {r s : CaseRun} {n : Nat}

theorem covers_iff : r.covers n = true ↔ r.first ≤ n ∧ n ≤ r.last ∧ (n - r.first) % r.step = 0 := by
  rw [covers, Bool.and_eq_true, Bool.and_eq_true, decide_eq_true_iff, decide_eq_true_iff,
    beq_iff_eq, and_assoc]

/-- The images of `r` lie before the letters of `s`, behind them, or between any two. -/
def misses (r s : CaseRun) : Bool :=
  (r.image r.last).blt s.first || s.last.blt (r.image r.first) ||
    (s.step == 2 && (r.step == 2 || r.first == r.last) && Nat.blt 0 (r.image r.first) &&
      (r.image r.first + s.first) % 2 == 1)

/-- An image lies between those of the first and the last letter. -/
theorem image_bounds (h : r.covers n = true) :
    r.image r.first ≤ r.image n ∧ r.image n ≤ r.image r.last := by
  obtain ⟨hfirst, hlast, -⟩ := covers_iff.1 h
  simp only [image]
  omega

theorem covers_image_of_misses (h : r.misses s = true) (hn : r.covers n = true) :
    s.covers (r.image n) = false := by
  obtain ⟨hle, hge⟩ := image_bounds hn
  obtain ⟨hfirst, hlast, hstep⟩ := covers_iff.1 hn
  simp only [misses, Bool.or_eq_true, Bool.and_eq_true, Nat.blt_eq, beq_iff_eq] at h
  rw [← Bool.not_eq_true, covers_iff]
  rintro ⟨hfirst', hlast', hstep'⟩
  rcases h with (h | h) | ⟨⟨⟨hs, hr⟩, hpos⟩, hodd⟩
  · omega
  · omega
  · -- the image is as far from the first one as the letter is from the first letter, an even way
    have hway : (r.image n - r.image r.first) % 2 = 0 := by
      simp only [image] at hpos ⊢
      rcases hr with hr | hr
      · rw [hr] at hstep
        omega
      · omega
    rw [hs] at hstep'
    omega

end Unicode.CaseRun

namespace Text

theorem lowerRuns_miss : (lowerRuns.all fun r => lowerRuns.all r.misses) = true := by decide +kernel

/-- Where no letter beyond ASCII has its lower case: ASCII before the small letters, the blanks
beyond ASCII, the letter `İ`, and what is no character. -/
def noImages : CodeRanges :=
  [(0, 0x60), (0x85, 0x85), (0xa0, 0xa0), (0x130, 0x130), (0x1680, 0x1680), (0x2000, 0x205f),
  (0x3000, 0x3000), (0xd800, 0xdfff)]

section Image

variable {r : Unicode.CaseRun} {n : Nat}

/-- **The image of a letter is no letter** with a lower case. -/
theorem covers_image (hr : r ∈ lowerRuns) (hn : r.covers n = true) :
    ∀ s ∈ lowerRuns, s.covers (r.image n) = false :=
  fun s hs => Unicode.CaseRun.covers_image_of_misses
    (List.all_eq_true.1 (List.all_eq_true.1 lowerRuns_miss r hr) s hs) hn

/-- **The place of an image** is outside of these. -/
theorem image_outside (hr : r ∈ lowerRuns) (hn : r.covers n = true) :
    ∀ s ∈ noImages, r.image n < s.1 ∨ s.2 < r.image n := by
  have hruns : ∀ r ∈ lowerRuns, ∀ s ∈ noImages, r.image r.last < s.1 ∨ s.2 < r.image r.first := by
    decide +kernel
  have hbounds := Unicode.CaseRun.image_bounds hn
  exact fun s hs => (hruns r hr s hs).imp (by omega) (by omega)

/-- Every image is a character. -/
theorem toNat_ofNat_image (hr : r ∈ lowerRuns) (hn : r.covers n = true) :
    (Char.ofNat (r.image n)).toNat = r.image n := by
  have hbound : ∀ r ∈ lowerRuns, r.image r.last < 0x110000 := by decide +kernel
  have hsurrogate := image_outside hr hn (0xd800, 0xdfff) (by decide)
  have hlast := hbound r hr
  have hle := (Unicode.CaseRun.image_bounds hn).2
  have hvalid : (r.image n).isValidChar := by
    unfold Nat.isValidChar
    omega
  rw [Char.ofNat, dif_pos hvalid]
  rfl

end Image

/-! ## The lower case of one character -/

/-- **What the lower case of a character is**: the small letter of ASCII, an `i` with its dot, the
image of the letter in a run, or else the character itself. -/
inductive LowersTo (c : Char) : List Char → Prop
  | ascii (h : c.toNat < 0x80) : LowersTo c [c.toLower]
  | dotted (h : c.toNat = 0x130) : LowersTo c ['i', '\u0307']
  | letter {r : Unicode.CaseRun} {d : Char} (hr : r ∈ lowerRuns) (hc : r.covers c.toNat = true)
    (hd : d.toNat = r.image c.toNat) : LowersTo c [d]
  | other (hascii : 0x80 ≤ c.toNat) (hdotted : c.toNat ≠ 0x130)
    (h : ∀ r ∈ lowerRuns, r.covers c.toNat = false) : LowersTo c [c]

theorem lowersTo_lowerChar (c : Char) : LowersTo c (lowerChar c) := by
  unfold lowerChar
  split_ifs with hascii hdotted
  · exact .ascii hascii
  · exact .dotted hdotted
  · split
    next r hr =>
      have hc : r.covers c.toNat = true := by simpa using List.find?_some hr
      have hmem := List.mem_of_find?_eq_some hr
      exact .letter hmem hc (toNat_ofNat_image hmem hc)
    next hnone =>
      refine .other (Nat.le_of_not_lt hascii) hdotted fun r hr => ?_
      simpa using List.find?_eq_none.1 hnone r hr

/-- What holds of all characters of ASCII is seen from their codes. -/
theorem forall_ascii {P : Char → Prop} (h : ∀ n < 0x80, P (Char.ofNat n)) {c : Char}
    (hc : c.toNat < 0x80) : P c :=
  Char.ofNat_toNat c ▸ h c.toNat hc

/-- Beyond the capitals of ASCII there is none. -/
theorem isUpper_of_lt_toNat {c : Char} (h : 90 < c.toNat) : c.isUpper = false := by
  refine decide_eq_false fun hupper => ?_
  have hle : c.toNat ≤ 90 := hupper.2
  omega

theorem toLower_of_isUpper_eq_false {c : Char} (h : c.isUpper = false) : c.toLower = c :=
  dif_neg (of_decide_eq_false h)

section LowerChar

variable {c d : Char}

/-- An image is no character of ASCII before the small letters. -/
theorem lt_toNat_of_image {r : Unicode.CaseRun} (hr : r ∈ lowerRuns) (hc : r.covers c.toNat = true)
    (hd : d.toNat = r.image c.toNat) : 0x60 < d.toNat := by
  have hplace := image_outside hr hc (0, 0x60) (by decide)
  omega

theorem isUpper_of_mem_lowerChar (h : d ∈ lowerChar c) : d.isUpper = false := by
  have hlower := lowersTo_lowerChar c
  generalize lowerChar c = ds at h hlower
  cases hlower with
  | ascii hascii =>
    obtain rfl := List.mem_singleton.1 h
    exact forall_ascii (P := fun c => c.toLower.isUpper = false) (by decide) hascii
  | dotted =>
    rw [List.mem_cons, List.mem_singleton] at h
    rcases h with rfl | rfl <;> rfl
  | letter hr hc hd =>
    obtain rfl := List.mem_singleton.1 h
    have hlt := lt_toNat_of_image hr hc hd
    exact isUpper_of_lt_toNat (by omega)
  | other hascii =>
    obtain rfl := List.mem_singleton.1 h
    exact isUpper_of_lt_toNat (by omega)

/-- What stands before the letters of ASCII is the lower case of nothing but itself. -/
theorem eq_of_mem_lowerChar (h : d ∈ lowerChar c) (hd : d.toNat ≤ 0x40) : d = c := by
  have hlower := lowersTo_lowerChar c
  generalize lowerChar c = ds at h hlower
  cases hlower with
  | ascii hascii =>
    obtain rfl := List.mem_singleton.1 h
    exact forall_ascii (P := fun c => c.toLower.toNat ≤ 0x40 → c.toLower = c) (by decide) hascii hd
  | dotted =>
    rw [List.mem_cons, List.mem_singleton] at h
    rcases h with rfl | rfl <;> exact absurd hd (by decide)
  | letter hr hc himage =>
    obtain rfl := List.mem_singleton.1 h
    have hlt := lt_toNat_of_image hr hc himage
    omega
  | other => exact List.mem_singleton.1 h

/-- **A settled character** is its own lower case, wherever it stands. -/
def Settled (c : Char) : Prop := c ≠ 'Σ' ∧ lowerChar c = [c]

/-- A character without a lower case of its own is settled. -/
theorem settled_of_covers (hupper : c.isUpper = false) (hdotted : c.toNat ≠ 0x130)
    (hruns : ∀ r ∈ lowerRuns, r.covers c.toNat = false) : Settled c := by
  have hsigma : ¬ ∀ r ∈ lowerRuns, r.covers ('Σ').toNat = false := by decide +kernel
  refine ⟨fun hc => hsigma (hc ▸ hruns), ?_⟩
  have hnone : lowerRuns.find? (·.covers c.toNat) = none := List.find?_eq_none.2 fun r hr => by
    simp [hruns r hr]
  unfold lowerChar
  rw [toLower_of_isUpper_eq_false hupper, if_neg hdotted, hnone, ite_self]

/-- **The lower case of a character is settled.** -/
theorem settled_of_mem_lowerChar (h : d ∈ lowerChar c) : Settled d := by
  have hupper := isUpper_of_mem_lowerChar h
  have hlower := lowersTo_lowerChar c
  generalize lowerChar c = ds at h hlower
  cases hlower with
  | ascii hascii =>
    obtain rfl := List.mem_singleton.1 h
    have hlow : c.toLower.toNat < 0x80 :=
      forall_ascii (P := fun c => c.toLower.toNat < 0x80) (by decide) hascii
    refine ⟨fun hsigma => ?_, ?_⟩
    · rw [hsigma] at hlow
      exact absurd hlow (by decide)
    · rw [lowerChar, if_pos hlow, toLower_of_isUpper_eq_false hupper]
  | dotted =>
    rw [List.mem_cons, List.mem_singleton] at h
    rcases h with rfl | rfl
    · exact ⟨by decide, rfl⟩
    · exact settled_of_covers hupper (by decide) (by decide +kernel)
  | letter hr hc hd =>
    obtain rfl := List.mem_singleton.1 h
    have hdotted := image_outside hr hc (0x130, 0x130) (by decide)
    refine settled_of_covers hupper (by omega) fun s hs => ?_
    -- an image is no letter of a run itself
    rw [hd]
    exact covers_image hr hc s hs
  | other _ hdotted hruns =>
    obtain rfl := List.mem_singleton.1 h
    exact settled_of_covers hupper hdotted hruns

/-- Outside ASCII the lower case stays there, but for the sign of Kelvin. -/
theorem exists_mem_lowerChar (h : 0x80 ≤ c.toNat) :
    ∃ d ∈ lowerChar c, 0x80 ≤ d.toNat ∨ d = 'k' := by
  have hruns : ∀ r ∈ lowerRuns, 0x80 ≤ r.image r.first ∨ r.first = r.last ∧
      r.image r.first = 0x6b := by
    decide +kernel
  have hlower := lowersTo_lowerChar c
  generalize lowerChar c = ds at hlower
  cases hlower with
  | ascii hascii => omega
  | dotted => exact ⟨'\u0307', by decide, .inl (by decide)⟩
  | @letter r d hr hc hd =>
    refine ⟨d, List.mem_singleton_self d, ?_⟩
    have hbounds := Unicode.CaseRun.image_bounds hc
    rcases hruns r hr with himage | ⟨hone, himage⟩
    · exact .inl (by omega)
    · have hk : d.toNat = ('k').toNat := by
        rw [← hone, himage] at hbounds
        rw [hd]
        exact Nat.le_antisymm hbounds.2 hbounds.1
      exact .inr (Char.toNat_inj.1 hk)
  | other hascii => exact ⟨c, List.mem_singleton_self c, .inl hascii⟩

/-- No character but a blank becomes a blank. -/
theorem isBlank_of_mem_lowerChar (h : d ∈ lowerChar c) (hd : isBlank d = true) :
    isBlank c = true := by
  have hlower := lowersTo_lowerChar c
  generalize lowerChar c = ds at h hlower
  cases hlower with
  | ascii hascii =>
    obtain rfl := List.mem_singleton.1 h
    exact forall_ascii (P := fun c => isBlank c.toLower = true →
        isBlank c = true) (by decide) hascii hd
  | dotted =>
    rw [List.mem_cons, List.mem_singleton] at h
    rcases h with rfl | rfl <;> exact absurd hd (by decide)
  | letter hr hc himage =>
    obtain rfl := List.mem_singleton.1 h
    have hplace := image_outside hr hc
    simp only [noImages, List.forall_mem_cons, ← himage] at hplace
    simp only [isBlank, Bool.or_eq_true, Bool.and_eq_true, decide_eq_true_iff, beq_iff_eq] at hd
    omega
  | other =>
    obtain rfl := List.mem_singleton.1 h
    exact hd

end LowerChar

/-! ## The lower case of a text -/

section LowerChars

variable {before cs : List Char}

/-- What holds of the two small sigmas and of what the other letters become holds of a text in lower
case. -/
theorem forall_mem_lowerChars {P : Char → Prop} (hsigma : P 'σ') (hfinal : P 'ς')
    (h : ∀ c ∈ cs, c ≠ 'Σ' → ∀ d ∈ lowerChar c, P d) : ∀ d ∈ lowerChars before cs, P d := by
  induction cs generalizing before with
  | nil => exact nofun
  | cons c cs ih =>
    obtain ⟨hc, hcs⟩ := List.forall_mem_cons.1 h
    intro d hd
    rw [lowerChars] at hd
    rcases List.mem_append.1 hd with hd | hd
    · split_ifs at hd with hupper
      · obtain rfl := List.mem_singleton.1 hd
        exact hfinal
      · obtain rfl := List.mem_singleton.1 hd
        exact hsigma
      · exact hc hupper d hd
    · exact ih hcs d hd

/-- **Lower case has no capital of ASCII.** -/
theorem isUpper_of_mem_lowerChars {d : Char} (h : d ∈ lowerChars before cs) : d.isUpper = false :=
  forall_mem_lowerChars (P := fun d => d.isUpper = false) rfl rfl
    (fun _ _ _ _ => isUpper_of_mem_lowerChar) d h

theorem lowerChars_of_settled (h : ∀ c ∈ cs, Settled c) : lowerChars before cs = cs := by
  induction cs generalizing before with
  | nil => rfl
  | cons c cs ih =>
    obtain ⟨⟨hsigma, hc⟩, hcs⟩ := List.forall_mem_cons.1 h
    rw [lowerChars, if_neg hsigma, hc, ih hcs]
    rfl

theorem settled_of_mem_lowerChars {d : Char} (h : d ∈ lowerChars before cs) : Settled d := by
  have hsigma : Settled 'σ' := settled_of_covers rfl (by decide) (by decide +kernel)
  have hfinal : Settled 'ς' := settled_of_covers rfl (by decide) (by decide +kernel)
  exact forall_mem_lowerChars hsigma hfinal (fun _ _ _ _ => settled_of_mem_lowerChar) d h

/-- No letter of ASCII is a sigma, so each becomes small whatever stands around it. -/
theorem lowerChars_of_ascii (h : ∀ c ∈ cs, c.toNat < 0x80) :
    lowerChars before cs = cs.map Char.toLower := by
  induction cs generalizing before with
  | nil => rfl
  | cons c cs ih =>
    obtain ⟨hc, hcs⟩ := List.forall_mem_cons.1 h
    have hsigma : c ≠ 'Σ' := by
      rintro rfl
      exact absurd hc (by decide)
    rw [lowerChars, if_neg hsigma, lowerChar, if_pos hc, ih hcs]
    rfl

/-- **Only ASCII has a lower case of ASCII** without the letter that the sign of Kelvin becomes. -/
theorem ascii_of_lowerChars (h : ∀ d ∈ lowerChars before cs, d.toNat < 0x80 ∧ d ≠ 'k') :
    ∀ c ∈ cs, c.toNat < 0x80 := by
  induction cs generalizing before with
  | nil => exact nofun
  | cons c cs ih =>
    rw [lowerChars, List.forall_mem_append] at h
    refine List.forall_mem_cons.2 ⟨Nat.lt_of_not_le fun hc => ?_, ih h.2⟩
    have hmem : ∃ d, d ∈ (if c = 'Σ' then
          [if meetsCased before && !meetsCased cs then 'ς' else 'σ'] else lowerChar c) ∧
        (0x80 ≤ d.toNat ∨ d = 'k') := by
      split_ifs
      · exact ⟨_, List.mem_singleton_self _, .inl (by decide)⟩
      · exact ⟨_, List.mem_singleton_self _, .inl (by decide)⟩
      · exact exists_mem_lowerChar hc
    obtain ⟨d, hd, hout⟩ := hmem
    obtain ⟨hlt, hk⟩ := h.1 d hd
    exact hout.elim (fun hge => by omega) hk

end LowerChars

end Text

/-- In ASCII the lower case is that of ASCII. -/
theorem lowerCase_of_ascii {s : String} (h : ∀ c ∈ s.toList, c.toNat < 0x80) :
    Text.lowerCase s = asciiLower s := by
  rw [Text.lowerCase, Text.lowerChars_of_ascii h, asciiLower]

/-- **Folding ASCII leaves lower case as it is.** -/
theorem asciiLower_lowerCase (s : String) : asciiLower (Text.lowerCase s) = Text.lowerCase s := by
  unfold asciiLower Text.lowerCase
  rw [String.toList_ofList]
  refine congrArg String.ofList ((List.map_congr_left fun d hd => ?_).trans (List.map_id _))
  exact Text.toLower_of_isUpper_eq_false (Text.isUpper_of_mem_lowerChars hd)

/-- **Lower case is its own lower case.** -/
theorem lowerCase_lowerCase (s : String) :
    Text.lowerCase (Text.lowerCase s) = Text.lowerCase s := by
  unfold Text.lowerCase
  rw [String.toList_ofList, Text.lowerChars_of_settled fun _ => Text.settled_of_mem_lowerChars]

/-- A text whose lower case is of ASCII, without the letter that the sign of Kelvin becomes, is of
ASCII. -/
theorem ascii_of_lowerCase {s : String}
    (h : ∀ d ∈ (Text.lowerCase s).toList, d.toNat < 0x80 ∧ d ≠ 'k') :
    ∀ c ∈ s.toList, c.toNat < 0x80 := by
  rw [Text.lowerCase, String.toList_ofList] at h
  exact Text.ascii_of_lowerChars h

end ApiContract
