import ApiContract.Path.Template
import ApiContract.Proofs.Document.Check

/-!
# Proofs/Path/Template — the texts that are path templates

`Template.DeclaredBy` says which text a template has: a slash and the texts of its segments between
slashes, as many slashes as one likes.  `Template.parse_eq_ok_iff` is the main statement: these are
the texts that are read.
-/

namespace ApiContract

variable {p : Location}

/-- An identifier is of ASCII: capitals, small letters and digits end before it does. -/
theorem toNat_lt_of_isIdentifierChar {c : Char} (h : isIdentifierChar c = true) :
    c.toNat < 0x80 := by
  have hlast {last : UInt32} (hc : c.val ≤ last) (hlast : last < 0x80) : c.toNat < 0x80 :=
    Nat.lt_of_le_of_lt hc hlast
  rcases Bool.or_eq_true_iff.1 h with h | h
  · rcases Bool.or_eq_true_iff.1 h with h | h
    · rcases Bool.or_eq_true_iff.1 h with h | h
      · exact hlast (of_decide_eq_true h).2 (by decide)
      · exact hlast (of_decide_eq_true (Bool.and_eq_true_iff.1 h).2) (by decide)
    · exact hlast (of_decide_eq_true (Bool.and_eq_true_iff.1 h).2) (by decide)
  · obtain rfl := eq_of_beq h
    decide

/-- The letter case of ASCII makes no difference to identifiers. -/
theorem isIdentifierChar_toLower (c : Char) : isIdentifierChar c.toLower = isIdentifierChar c := by
  by_cases hc : c.toNat < 0x80
  · have hall : ∀ n < 0x80,
        isIdentifierChar (Char.ofNat n).toLower = isIdentifierChar (Char.ofNat n) := by decide
    exact Char.ofNat_toNat c ▸ hall c.toNat hc
  · have hsame : c.toLower = c := dif_neg fun hupper => hc (Nat.lt_of_le_of_lt hupper.2 (by decide))
    rw [hsame]

theorem isIdentifier_map_toLower (cs : List Char) :
    isIdentifier (cs.map Char.toLower) = isIdentifier cs := by
  simp [isIdentifier, Function.comp_def, isIdentifierChar_toLower]

theorem isIdentifier_iff {cs : List Char} :
    isIdentifier cs = true ↔ cs ≠ [] ∧ ∀ c ∈ cs, isIdentifierChar c = true := by
  rw [isIdentifier, Bool.and_eq_true, Bool.not_eq_true', List.isEmpty_eq_false_iff,
    List.all_eq_true]

namespace Segment

/-- The name of a segment: what a constant says, or what a variable is called. -/
def name : Segment → String
  | const value => value
  | var name => name

/-- The text of a segment in a template. -/
def written : Segment → List Char
  | const value => value.toList
  | var name => '\x7b' :: (name.toList ++ ['\x7d'])

/-- An identifier opens no brace. -/
theorem isIdentifier_brace (cs : List Char) : isIdentifier ('\x7b' :: cs) = false := by
  simp [isIdentifier, isIdentifierChar]

/-- A piece is a segment's text, the segment's name being an identifier. -/
theorem ofPiece?_eq_some_iff {cs : List Char} {s : Segment} :
    ofPiece? cs = some s ↔ cs = s.written ∧ isIdentifier s.name.toList = true := by
  unfold ofPiece?
  constructor
  · intro h
    split at h
    next inner =>
      split_ifs at h with hi
      cases h
      refine ⟨?_, by simpa [name] using hi.2⟩
      rw [written, String.toList_ofList, List.dropLast_append_getLast? _ hi.1]
    next =>
      split_ifs at h with hi
      cases h
      exact ⟨String.toList_ofList.symm, by simpa [name] using hi⟩
  · rintro ⟨rfl, hi⟩
    cases s with
    | const value =>
      dsimp only [written, name] at hi ⊢
      split
      next inner hv => simp [hv, isIdentifier_brace] at hi
      next => rw [if_pos hi, String.ofList_toList]
    | var n =>
      dsimp only [written, name] at hi ⊢
      refine (if_pos ⟨List.getLast?_concat, by rwa [List.dropLast_concat]⟩).trans ?_
      rw [List.dropLast_concat, String.ofList_toList]

end Segment

namespace Template

/-- **The text of a template**: a slash, then the texts of the segments between slashes, the pieces
that are empty not counting.  The names of the segments are identifiers. -/
structure DeclaredBy (raw : String) (t : Template) : Prop where
  text : t.text = raw
  pieces : ∃ rest, raw.toList = '/' :: rest ∧
    (ApiContract.pieces rest).filter (!·.isEmpty) = t.segments.map Segment.written
  names : ∀ s ∈ t.segments, isIdentifier s.name.toList = true

/-- **The texts that are read are those of templates.** -/
theorem parse_eq_ok_iff {raw : String} {t : Template} : parse p raw = .ok t ↔ t.DeclaredBy raw := by
  have key : ∀ {cs : List (List Char)} {segments : List Segment},
      cs.mapM Segment.ofPiece? = some segments ↔
        cs = segments.map Segment.written ∧
          ∀ s ∈ segments, isIdentifier s.name.toList = true := by
    intro cs segments
    rw [mapM_eq_some_iff]
    simp only [Segment.ofPiece?_eq_some_iff, forall₂_eq_map_iff]
  unfold parse
  constructor
  · intro h
    split at h
    next rest hr =>
      split at h
      next segments hs =>
        cases h
        exact ⟨rfl, ⟨rest, hr, (key.1 hs).1⟩, (key.1 hs).2⟩
      next => exact absurd h refuse_ne_ok
    next => exact absurd h refuse_ne_ok
  · rintro ⟨rfl, ⟨rest, hr, hp⟩, hn⟩
    rw [hr]
    simp only [key.2 ⟨hp, hn⟩]

end Template

end ApiContract
