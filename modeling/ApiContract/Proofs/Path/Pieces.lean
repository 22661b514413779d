import ApiContract.Path.Template
import Mathlib.Data.List.Basic

/-!
# Proofs/Path/Pieces — the pieces between the slashes of a text

`pieces` splits a text at its slashes (`pieces_eq_splitOn`), and `words` are the pieces that are not
empty: of a template, what stands for its segments; of a request path, its segments.  `Spells` says
which texts have given words: each word, then a slash or the end, and further slashes anywhere.
**`words_eq_iff`** shows that it says so.
-/

namespace ApiContract

variable {cs w : List Char} {ws : List (List Char)}

theorem pieces_eq_splitOn (cs : List Char) : pieces cs = cs.splitOn '/' := by
  induction cs with
  | nil => rfl
  | cons c cs ih =>
    obtain ⟨p, ps, hps⟩ := List.exists_cons_of_ne_nil (List.splitOn_ne_nil '/' cs)
    rw [pieces, ih, List.splitOn_cons_eq_if_modifyHead, hps]
    simp only [beq_iff_eq, List.modifyHead_cons]

/-- The pieces that are not empty. -/
def words (cs : List Char) : List (List Char) := (pieces cs).filter (!·.isEmpty)

theorem requestSegments_eq_map_words (path : String) :
    requestSegments path = (words path.toList).map String.ofList := rfl

theorem mem_words_iff : w ∈ words cs ↔ w ∈ cs.splitOn '/' ∧ w ≠ [] := by
  rw [words, pieces_eq_splitOn, List.mem_filter, Bool.not_eq_true', List.isEmpty_eq_false_iff]

/-- Slashes in front do not matter. -/
@[simp] theorem words_slash (cs : List Char) : words ('/' :: cs) = words cs := by
  rw [words, pieces_eq_splitOn, List.splitOn_cons_eq_if_modifyHead, if_pos (beq_self_eq_true _),
    words, pieces_eq_splitOn]
  rfl

theorem words_of_not_mem (hne : w ≠ []) (hw : '/' ∉ w) : words w = [w] := by
  rw [words, pieces_eq_splitOn, List.splitOn_eq_singleton hw]
  simp [hne]

theorem words_append_slash (hne : w ≠ []) (hw : '/' ∉ w) (cs : List Char) :
    words (w ++ '/' :: cs) = w :: words cs := by
  rw [words, pieces_eq_splitOn, List.splitOn_append_cons_self_of_not_mem hw, words,
    pieces_eq_splitOn]
  simp [hne]

/-- Words between slashes are read back. -/
theorem words_intercalate (h : ∀ w ∈ ws, w ≠ [] ∧ '/' ∉ w) : words (['/'].intercalate ws) = ws := by
  by_cases hws : ws = []
  · subst hws
    rfl
  · rw [words, pieces_eq_splitOn, List.splitOn_intercalate '/' (fun w hw => (h w hw).2) hws]
    exact List.filter_eq_self.2 fun w hw => by simp [(h w hw).1]

/-- **A text spells words**: one after the other, a slash behind each but the last, and further
slashes anywhere. -/
inductive Spells : List (List Char) → List Char → Prop
  | nil : Spells [] []
  | slash {ws : List (List Char)} {cs : List Char} (h : Spells ws cs) : Spells ws ('/' :: cs)
  | last (w : List Char) : Spells [w] w
  | word {ws : List (List Char)} {cs : List Char} (w : List Char) (h : Spells ws cs) :
    Spells (w :: ws) (w ++ '/' :: cs)

theorem Spells.words_eq (h : Spells ws cs) (hws : ∀ w ∈ ws, w ≠ [] ∧ '/' ∉ w) : words cs = ws := by
  induction h with
  | nil => rfl
  | slash _ ih => rw [words_slash, ih hws]
  | last w =>
    obtain ⟨hne, hw⟩ := hws w List.mem_cons_self
    exact words_of_not_mem hne hw
  | word w _ ih =>
    obtain ⟨⟨hne, hw⟩, hws⟩ := List.forall_mem_cons.1 hws
    rw [words_append_slash hne hw, ih hws]

/-- The words of a text are spelled by it, and are words: not empty and without slashes.  The text
is taken apart at its first slash. -/
theorem spells_words (cs : List Char) :
    Spells (words cs) cs ∧ ∀ w ∈ words cs, w ≠ [] ∧ '/' ∉ w := by
  obtain ⟨w, rest, rfl, hw, hrest⟩ :
      ∃ w rest, w ++ rest = cs ∧ '/' ∉ w ∧ (rest = [] ∨ ∃ cs', rest = '/' :: cs') := by
    refine ⟨cs.takeWhile (· != '/'), cs.dropWhile (· != '/'), List.takeWhile_append_dropWhile,
      fun h => ?_, ?_⟩
    · simpa using List.all_eq_true.1 List.all_takeWhile _ h
    · rcases hd : cs.dropWhile (· != '/') with _ | ⟨c, cs'⟩
      · exact .inl rfl
      · have hc := List.head_dropWhile_not (· != '/') (List.ne_nil_of_mem (hd ▸ List.mem_cons_self))
        simp only [hd, List.head_cons, bne_eq_false_iff_eq] at hc
        exact .inr ⟨cs', hc ▸ rfl⟩
  rcases hrest with rfl | ⟨cs', rfl⟩
  · by_cases hne : w = []
    · subst hne
      exact ⟨.nil, nofun⟩
    · rw [List.append_nil, words_of_not_mem hne hw]
      exact ⟨.last w, List.forall_mem_singleton.2 ⟨hne, hw⟩⟩
  · obtain ⟨hspells, hwords⟩ := spells_words cs'
    by_cases hne : w = []
    · subst hne
      rw [List.nil_append, words_slash]
      exact ⟨.slash hspells, hwords⟩
    · rw [words_append_slash hne hw]
      exact ⟨.word w hspells, List.forall_mem_cons.2 ⟨⟨hne, hw⟩, hwords⟩⟩
termination_by cs.length

/-- **The words of a text** are those that it spells. -/
theorem words_eq_iff : words cs = ws ↔ Spells ws cs ∧ ∀ w ∈ ws, w ≠ [] ∧ '/' ∉ w := by
  constructor
  · rintro rfl
    exact spells_words cs
  · exact fun h => h.1.words_eq h.2

/-- The segments of a request path are those that it spells. -/
theorem requestSegments_eq {path : String} {request : List String}
    (h : Spells (request.map String.toList) path.toList)
    (hrequest : ∀ r ∈ request, r ≠ "" ∧ '/' ∉ r.toList) : requestSegments path = request := by
  have hwords : words path.toList = request.map String.toList := by
    refine words_eq_iff.2 ⟨h, List.forall_mem_map.2 fun r hr => ?_⟩
    exact ⟨fun hnil => (hrequest r hr).1 (String.toList_eq_nil_iff.1 hnil), (hrequest r hr).2⟩
  rw [requestSegments_eq_map_words, hwords, List.map_map]
  exact (List.map_congr_left fun r _ => String.ofList_toList).trans (List.map_id _)

end ApiContract
