import ApiContract.Proofs.Path.Pieces
import ApiContract.Proofs.Path.Template
import Mathlib.Computability.RegularExpressions

/-!
# Proofs/Path/Grammar — path templates as a regular language

`Template.grammar` is the expression that a refusal quotes, as a regular expression over characters:
one or more times a slash and at most one piece, which is an identifier with at most one brace on
either side.  **`Template.parse_grammar`**: the texts that are read are its words in which no piece
has one brace only, and each piece is a segment.
-/

namespace ApiContract

/-! ## Regular expressions -/

namespace Grammar

open RegularExpression

variable {r : RegularExpression Char} {cs : List Char}

/-- One of some characters. -/
def oneOf (chars : List Char) : RegularExpression Char := (chars.map char).sum

/-- At most once. -/
def atMostOnce (r : RegularExpression Char) : RegularExpression Char := 1 + r

/-- Once or more. -/
def atLeastOnce (r : RegularExpression Char) : RegularExpression Char := r * star r

theorem mem_char_iff {c : Char} : cs ∈ (char c).matches' ↔ cs = [c] := by
  rw [matches'_char]
  exact Set.mem_singleton_iff

theorem mem_oneOf_iff {chars : List Char} :
    cs ∈ (oneOf chars).matches' ↔ ∃ c ∈ chars, cs = [c] := by
  induction chars with
  | nil => simp [oneOf, Language.notMem_zero]
  | cons c chars ih =>
    rw [oneOf, List.map_cons, List.sum_cons, matches'_add, Language.mem_add, ← oneOf, ih,
      mem_char_iff, List.exists_mem_cons_iff]

theorem mem_atMostOnce_iff : cs ∈ (atMostOnce r).matches' ↔ cs = [] ∨ cs ∈ r.matches' := by
  rw [atMostOnce, matches'_add, Language.mem_add, matches'_epsilon, Language.mem_one]

/-- One or more parts, one after the other. -/
theorem mem_atLeastOnce_iff :
    cs ∈ (atLeastOnce r).matches' ↔
      ∃ parts ≠ [], cs = parts.flatten ∧ ∀ part ∈ parts, part ∈ r.matches' := by
  rw [atLeastOnce, matches'_mul, matches'_star, Language.mem_mul]
  constructor
  · rintro ⟨part, hpart, rest, hrest, rfl⟩
    obtain ⟨parts, rfl, hparts⟩ := Language.mem_kstar.1 hrest
    exact ⟨part :: parts, List.cons_ne_nil _ _, rfl, List.forall_mem_cons.2 ⟨hpart, hparts⟩⟩
  · rintro ⟨parts, hne, rfl, hparts⟩
    obtain ⟨part, parts, rfl⟩ := List.exists_cons_of_ne_nil hne
    obtain ⟨hpart, hparts⟩ := List.forall_mem_cons.1 hparts
    exact ⟨part, hpart, _, Language.mem_kstar.2 ⟨parts, rfl, hparts⟩, rfl⟩

/-- Characters of a class, one or more. -/
theorem mem_atLeastOnce_oneOf_iff {chars : List Char} :
    cs ∈ (atLeastOnce (oneOf chars)).matches' ↔ cs ≠ [] ∧ ∀ c ∈ cs, c ∈ chars := by
  rw [mem_atLeastOnce_iff]
  constructor
  · rintro ⟨parts, hne, rfl, hparts⟩
    simp only [mem_oneOf_iff] at hparts
    obtain ⟨part, parts, rfl⟩ := List.exists_cons_of_ne_nil hne
    refine ⟨?_, fun c hc => ?_⟩
    · obtain ⟨c, -, rfl⟩ := hparts part List.mem_cons_self
      exact List.cons_ne_nil _ _
    · obtain ⟨part', hpart', hc⟩ := List.mem_flatten.1 hc
      obtain ⟨c', hc', rfl⟩ := hparts part' hpart'
      exact List.mem_singleton.1 hc ▸ hc'
  · rintro ⟨hne, hchars⟩
    refine ⟨cs.map fun c => [c], by simpa using hne, (List.flatMap_singleton' cs).symm, ?_⟩
    exact List.forall_mem_map.2 fun c hc => mem_oneOf_iff.2 ⟨c, hchars c hc, rfl⟩

end Grammar

/-! ## The grammar of templates -/

/-- The characters of the class `[a-zA-Z0-9_]`. -/
def identifierChars : List Char :=
  "abcdefghijklmnopqrstuvwxyzABCDEFGHIJKLMNOPQRSTUVWXYZ0123456789_".toList

/-- The class has the characters of identifiers, and no others. -/
theorem mem_identifierChars_iff {c : Char} : c ∈ identifierChars ↔ isIdentifierChar c = true := by
  constructor
  · have hall : identifierChars.all isIdentifierChar = true := by decide +kernel
    exact List.all_eq_true.1 hall c
  · intro hc
    have hall : ∀ n < 0x80,
        isIdentifierChar (Char.ofNat n) = true → Char.ofNat n ∈ identifierChars := by
      decide +kernel
    rw [← Char.ofNat_toNat c] at hc ⊢
    exact hall c.toNat (toNat_lt_of_isIdentifierChar (Char.ofNat_toNat c ▸ hc)) hc

open Grammar RegularExpression in
/-- What stands between two slashes: an identifier, with at most one brace on either side. -/
def Segment.grammar : RegularExpression Char :=
  atMostOnce (char '\x7b') * atLeastOnce (oneOf identifierChars) * atMostOnce (char '\x7d')

open Grammar RegularExpression in
/-- **The grammar of templates**: once or more a slash, and at most one piece. -/
def Template.grammar : RegularExpression Char := atLeastOnce (char '/' * atMostOnce Segment.grammar)

/-- A piece that opens with a brace closes with one, and conversely. -/
def Segment.IsBalanced (piece : List Char) : Prop :=
  piece.head? = some '\x7b' ↔ piece.getLast? = some '\x7d'

/-- The segment that a piece stands for: a variable in braces, or a constant. -/
def Segment.ofPiece (piece : List Char) : Segment :=
  if piece.head? = some '\x7b' then .var (String.ofList piece.tail.dropLast)
  else .const (String.ofList piece)

namespace Segment

variable {cs piece : List Char} {s : Segment}

/-- The words of the class are the identifiers. -/
theorem mem_identifier_iff :
    cs ∈ (Grammar.atLeastOnce (Grammar.oneOf identifierChars)).matches' ↔
      isIdentifier cs = true := by
  rw [Grammar.mem_atLeastOnce_oneOf_iff, isIdentifier_iff]
  simp only [mem_identifierChars_iff]

/-- A piece is an identifier, with a brace on no side, on one or on both. -/
theorem mem_grammar_iff :
    piece ∈ grammar.matches' ↔
      ∃ name, isIdentifier name = true ∧
        (piece = name ∨ piece = '\x7b' :: name ∨ piece = name ++ ['\x7d'] ∨
          piece = '\x7b' :: (name ++ ['\x7d'])) := by
  simp only [grammar, RegularExpression.matches'_mul, Language.mem_mul, mem_identifier_iff,
    Grammar.mem_atMostOnce_iff, Grammar.mem_char_iff]
  constructor
  · rintro ⟨_, ⟨_, rfl | rfl, name, hname, rfl⟩, _, rfl | rfl, rfl⟩
    · exact ⟨name, hname, .inl (by simp)⟩
    · exact ⟨name, hname, .inr (.inr (.inl (by simp)))⟩
    · exact ⟨name, hname, .inr (.inl (by simp))⟩
    · exact ⟨name, hname, .inr (.inr (.inr (by simp)))⟩
  · rintro ⟨name, hname, rfl | rfl | rfl | rfl⟩
    · exact ⟨_, ⟨[], .inl rfl, _, hname, rfl⟩, [], .inl rfl, by simp⟩
    · exact ⟨_, ⟨['\x7b'], .inr rfl, _, hname, rfl⟩, [], .inl rfl, by simp⟩
    · exact ⟨_, ⟨[], .inl rfl, _, hname, rfl⟩, ['\x7d'], .inr rfl, by simp⟩
    · exact ⟨_, ⟨['\x7b'], .inr rfl, _, hname, rfl⟩, ['\x7d'], .inr rfl, by simp⟩

/-- A character that no identifier has is neither the first nor the last of one. -/
theorem isIdentifier_ends {name : List Char} {c : Char} (h : isIdentifier name = true)
    (hc : isIdentifierChar c = false) : name.head? ≠ some c ∧ name.getLast? ≠ some c := by
  have hnot : c ∉ name := fun hmem =>
    Bool.false_ne_true (hc.symm.trans ((isIdentifier_iff.1 h).2 c hmem))
  exact ⟨fun hhead => hnot (List.mem_of_head? hhead),
    fun hlast => hnot (List.mem_of_getLast? hlast)⟩

/-- An identifier stands for itself. -/
theorem ofPiece_bare (h : isIdentifier piece = true) :
    ofPiece piece = .const (String.ofList piece) :=
  if_neg (isIdentifier_ends h (c := '\x7b') rfl).1

/-- A name in braces stands for a variable. -/
theorem ofPiece_braced (name : List Char) :
    ofPiece ('\x7b' :: (name ++ ['\x7d'])) = .var (String.ofList name) := by
  rw [ofPiece, List.head?_cons, if_pos rfl, List.tail_cons, List.dropLast_concat]

theorem isBalanced_bare (h : isIdentifier piece = true) : IsBalanced piece :=
  iff_of_false (isIdentifier_ends h (c := '\x7b') rfl).1 (isIdentifier_ends h (c := '\x7d') rfl).2

theorem isBalanced_braced (name : List Char) : IsBalanced ('\x7b' :: (name ++ ['\x7d'])) :=
  iff_of_true rfl (List.getLast?_concat (l := '\x7b' :: name))

theorem written_ne_nil (h : isIdentifier s.name.toList = true) : s.written ≠ [] := by
  cases s with
  | const value => exact (isIdentifier_iff.1 h).1
  | var name => exact List.cons_ne_nil _ _

/-- No piece has a slash. -/
theorem slash_not_mem_of_mem_grammar (h : piece ∈ grammar.matches') : '/' ∉ piece := by
  obtain ⟨name, hname, hpiece⟩ := mem_grammar_iff.1 h
  have hslash : '/' ∉ name := fun hmem => Bool.false_ne_true ((isIdentifier_iff.1 hname).2 '/' hmem)
  rcases hpiece with rfl | rfl | rfl | rfl <;> simp [hslash]

/-- **The text of a segment** is a piece of the grammar with both braces or none, and stands for
that segment. -/
theorem written_iff :
    piece = s.written ∧ isIdentifier s.name.toList = true ↔
      (piece ∈ grammar.matches' ∧ IsBalanced piece) ∧ s = ofPiece piece := by
  rw [mem_grammar_iff]
  constructor
  · rintro ⟨rfl, hname⟩
    cases s with
    | const value =>
      have heq : ofPiece (const value).written = const value :=
        (ofPiece_bare hname).trans (congrArg _ String.ofList_toList)
      exact ⟨⟨⟨_, hname, .inl rfl⟩, isBalanced_bare hname⟩, heq.symm⟩
    | var name =>
      have heq : ofPiece (var name).written = var name :=
        (ofPiece_braced name.toList).trans (congrArg _ String.ofList_toList)
      exact ⟨⟨⟨_, hname, .inr (.inr (.inr rfl))⟩, isBalanced_braced name.toList⟩, heq.symm⟩
  · rintro ⟨⟨⟨name, hname, hpiece⟩, hbalanced⟩, rfl⟩
    have hopen := isIdentifier_ends hname (c := '\x7b') rfl
    have hclose := isIdentifier_ends hname (c := '\x7d') rfl
    obtain ⟨c, cs, rfl⟩ := List.exists_cons_of_ne_nil (isIdentifier_iff.1 hname).1
    -- a brace on one side only is not balanced
    rcases hpiece with rfl | rfl | rfl | rfl
    · rw [ofPiece_bare hname, written, Segment.name, String.toList_ofList]
      exact ⟨rfl, hname⟩
    · exact absurd (hbalanced.1 rfl) hclose.2
    · exact absurd (hbalanced.2 List.getLast?_concat) hopen.1
    · rw [ofPiece_braced, written, Segment.name, String.toList_ofList]
      exact ⟨rfl, hname⟩

end Segment

namespace Template

variable {p : Location} {raw : String} {t : Template} {cs : List Char}

/-- Pieces that each follow a slash are pieces between slashes, behind a first one. -/
theorem flatten_map_slash {pieces : List (List Char)} (h : pieces ≠ []) :
    (pieces.map ('/' :: ·)).flatten = '/' :: ['/'].intercalate pieces := by
  induction pieces with
  | nil => exact absurd rfl h
  | cons piece rest ih =>
    cases rest with
    | nil => simp
    | cons piece' rest =>
      rw [List.map_cons, List.flatten_cons, ih (List.cons_ne_nil _ _), List.intercalate_cons_cons]
      simp

/-- A slash, and a piece of the grammar or none. -/
theorem mem_slash_grammar_iff :
    cs ∈ (RegularExpression.char '/' * Grammar.atMostOnce Segment.grammar).matches' ↔
      ∃ piece, cs = '/' :: piece ∧ (piece ≠ [] → piece ∈ Segment.grammar.matches') := by
  simp only [RegularExpression.matches'_mul, Language.mem_mul, Grammar.mem_char_iff,
    Grammar.mem_atMostOnce_iff]
  constructor
  · rintro ⟨_, rfl, piece, hpiece, rfl⟩
    exact ⟨piece, rfl, fun hne => hpiece.resolve_left hne⟩
  · rintro ⟨piece, rfl, hpiece⟩
    exact ⟨_, rfl, piece, or_iff_not_imp_left.2 hpiece, rfl⟩

/-- **The grammar of templates** has a slash, then pieces of the grammar between slashes; empty ones
do not count. -/
theorem mem_grammar_iff :
    cs ∈ grammar.matches' ↔
      ∃ rest, cs = '/' :: rest ∧ ∀ piece ∈ words rest, piece ∈ Segment.grammar.matches' := by
  rw [grammar, Grammar.mem_atLeastOnce_iff]
  simp only [mem_slash_grammar_iff, mem_words_iff]
  constructor
  · rintro ⟨parts, hne, rfl, hparts⟩
    obtain ⟨pieces, hpieces⟩ := exists_forall₂_iff.2 hparts
    obtain ⟨rfl, hgrammar⟩ := forall₂_eq_map_iff.1 hpieces
    rw [ne_eq, List.map_eq_nil_iff] at hne
    refine ⟨['/'].intercalate pieces, flatten_map_slash hne, fun piece hpiece => ?_⟩
    have hslash : ∀ piece ∈ pieces, '/' ∉ piece := fun piece hpiece hmem =>
      Segment.slash_not_mem_of_mem_grammar (hgrammar piece hpiece (List.ne_nil_of_mem hmem)) hmem
    rw [List.splitOn_intercalate '/' hslash hne] at hpiece
    exact hgrammar piece hpiece.1 hpiece.2
  · rintro ⟨rest, rfl, hrest⟩
    have hne := List.splitOn_ne_nil '/' rest
    refine ⟨(rest.splitOn '/').map ('/' :: ·), by simp, ?_, ?_⟩
    · rw [flatten_map_slash hne, List.intercalate_splitOn]
    · exact List.forall_mem_map.2 fun piece hpiece =>
        ⟨piece, rfl, fun hne => hrest piece ⟨hpiece, hne⟩⟩

/-- **The texts that are read** are those of the grammar whose pieces have both braces or none, and
their pieces are the segments. -/
theorem parse_eq_ok_iff_mem_grammar :
    parse p raw = .ok t ↔
      (raw.toList ∈ grammar.matches' ∧ ∀ piece ∈ words raw.toList, Segment.IsBalanced piece) ∧
        t = ⟨raw, (words raw.toList).map Segment.ofPiece⟩ := by
  have hsegments {pieces : List (List Char)} {segments : List Segment} :
      (pieces = segments.map Segment.written ∧ ∀ s ∈ segments, isIdentifier s.name.toList = true) ↔
        segments = pieces.map Segment.ofPiece ∧
          ∀ piece ∈ pieces, piece ∈ Segment.grammar.matches' ∧ Segment.IsBalanced piece := by
    rw [← forall₂_eq_map_iff, ← forall₂_eq_map_iff]
    exact ⟨fun h => .flip (h.imp fun _ _ hs => (Segment.written_iff.1 hs).symm),
      fun h => .flip (h.imp fun _ _ hs => Segment.written_iff.2 hs.symm)⟩
  rw [parse_eq_ok_iff, mem_grammar_iff]
  constructor
  · rintro ⟨rfl, ⟨rest, hr, hp⟩, hn⟩
    obtain ⟨heq, hpieces⟩ := hsegments.1 ⟨hp, hn⟩
    rw [← words] at heq hpieces
    rw [hr, words_slash, ← heq]
    exact ⟨⟨⟨rest, rfl, fun piece h => (hpieces piece h).1⟩, fun piece h => (hpieces piece h).2⟩,
      rfl⟩
  · rintro ⟨⟨⟨rest, hr, hgrammar⟩, hbalanced⟩, rfl⟩
    rw [hr, words_slash] at hbalanced ⊢
    obtain ⟨hp, hn⟩ := hsegments.2 ⟨rfl, fun piece h => ⟨hgrammar piece h, hbalanced piece h⟩⟩
    exact ⟨rfl, ⟨rest, hr, hp⟩, hn⟩

/-- A text that is not read is refused for its grammar, at the place it stands in. -/
theorem eq_of_parse_eq_error {d : Defect} (h : parse p raw = .error d) : d = ⟨p, .badTemplate⟩ := by
  unfold parse at h
  split at h
  · split at h
    · cases h
    · exact (Except.error.inj h).symm
  · exact (Except.error.inj h).symm

/-- The text of segments: each behind one slash. -/
def written (segments : List Segment) : String :=
  "/" ++ "/".intercalate (segments.map fun s => String.ofList s.written)

/-- **The text of segments is read back**, their names being identifiers. -/
theorem parse_written (p : Location) {segments : List Segment}
    (h : ∀ s ∈ segments, isIdentifier s.name.toList = true) :
    parse p (written segments) = .ok ⟨written segments, segments⟩ := by
  have htext : (written segments).toList =
      '/' :: ['/'].intercalate (segments.map Segment.written) := by
    rw [written, String.toList_append, String.toList_intercalate, List.map_map]
    simp only [Function.comp_def, String.toList_ofList]
    rfl
  have hpieces : ∀ piece ∈ segments.map Segment.written, piece ≠ [] ∧ '/' ∉ piece := by
    refine List.forall_mem_map.2 fun s hs => ?_
    obtain ⟨⟨hgrammar, -⟩, -⟩ := Segment.written_iff.1 ⟨rfl, h s hs⟩
    exact ⟨Segment.written_ne_nil (h s hs), Segment.slash_not_mem_of_mem_grammar hgrammar⟩
  exact parse_eq_ok_iff.2 ⟨rfl, ⟨_, htext, words_intercalate hpieces⟩, h⟩

/-- **Path templates as a regular language.**  A text is read exactly when it is of the grammar and
each of its pieces has both braces or none; then the pieces that are not empty are the segments, in
order.  Otherwise it is refused at its place, with the grammar.  The text of any segments whose
names are identifiers is read back. -/
theorem parse_grammar (p : Location) (raw : String) :
    ((∃ t, parse p raw = .ok t) ↔
      raw.toList ∈ grammar.matches' ∧
        ∀ piece ∈ raw.toList.splitOn '/', piece ≠ [] → Segment.IsBalanced piece) ∧
    (∀ t, parse p raw = .ok t →
      t = ⟨raw, ((raw.toList.splitOn '/').filter (!·.isEmpty)).map Segment.ofPiece⟩) ∧
    (∀ d, parse p raw = .error d →
      d.location = p ∧ d.detail = "expect match \"" ++ Defect.pathGrammar ++ "\"") ∧
    ∀ segments : List Segment, (∀ s ∈ segments, isIdentifier s.name.toList = true) →
      parse p (written segments) = .ok ⟨written segments, segments⟩ := by
  refine ⟨?_, fun t ht => ?_, fun d hd => ?_, fun segments h => parse_written p h⟩
  · simp only [parse_eq_ok_iff_mem_grammar, exists_and_left, exists_eq, and_true, mem_words_iff,
      and_imp]
  · obtain ⟨-, rfl⟩ := parse_eq_ok_iff_mem_grammar.1 ht
    rw [words, pieces_eq_splitOn]
  · obtain rfl := eq_of_parse_eq_error hd
    exact ⟨rfl, rfl⟩

/-- The template of a pet is written in one way and read so. -/
theorem parse_petTemplate :
    parse "/paths" "/pets/\x7bid\x7d" = .ok ⟨"/pets/\x7bid\x7d", [.const "pets", .var "id"]⟩ := by
  have hwritten : written [.const "pets", .var "id"] = "/pets/\x7bid\x7d" := by decide
  obtain ⟨-, -, -, hread⟩ := parse_grammar "/paths" "/pets/\x7bid\x7d"
  exact hwritten ▸ hread [.const "pets", .var "id"] (by decide)

end Template

end ApiContract
