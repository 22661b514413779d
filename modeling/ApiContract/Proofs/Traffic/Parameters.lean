import ApiContract.Traffic.Parameters
import Mathlib.Tactic.SplitIfs

/-!
# Proofs/Traffic/Parameters — the values of parameters that are checked

The values that query pairs leave in the places of the path variables are told by `effectiveValue`
(`mergeParameters_getElem?`); a value that passes conforms to its type, in words that do not refer
to the check (`ParameterType.admits_iff`).
-/

namespace ApiContract

/-! ## The overlay -/

variable {path query : List (String × String)} {name value : String} {i : Nat}

/-- The value that counts for the path variable at index `i`: its own, unless it is the first of its
name and the query has the name; then the last one the query gives. -/
def effectiveValue (path query : List (String × String)) (i : Nat) (name value : String) : String :=
  if name ∈ (path.take i).map (·.1) then value else (query.reverse.lookup name).getD value

/-- Writing keeps every name in its place. -/
theorem write_take_names (n v : String) (hi : i ≤ path.length) :
    ((mergeParameters.write n v path).take i).map (·.1) = (path.take i).map (·.1) := by
  induction path generalizing i with
  | nil =>
    obtain rfl : i = 0 := Nat.le_zero.1 hi
    rfl
  | cons first rest ih =>
    obtain ⟨m, w⟩ := first
    cases i with
    | zero => rfl
    | succ i =>
      rw [mergeParameters.write]
      split_ifs
      · rfl
      · exact congrArg (m :: ·) (ih (Nat.le_of_succ_le_succ hi))

/-- Writing changes a value where it is the first of the name. -/
theorem write_getElem? (n v : String) (hi : path[i]? = some (name, value)) :
    (mergeParameters.write n v path)[i]? =
      some (name, if name = n ∧ name ∉ (path.take i).map (·.1) then v else value) := by
  induction path generalizing i with
  | nil => cases hi
  | cons first rest ih =>
    obtain ⟨m, w⟩ := first
    rw [mergeParameters.write]
    cases i with
    | zero =>
      cases hi
      split_ifs with h h' h'
      · rfl
      · exact absurd ⟨eq_of_beq h, List.not_mem_nil⟩ h'
      · exact absurd (beq_iff_eq.2 h'.1) h
      · rfl
    | succ i =>
      -- the names in front of a later place are the first one and those in front of it in the rest
      have hrest : rest[i]? = some (name, value) := hi
      rw [List.take_succ_cons, List.map_cons]
      split_ifs with h h' h'
      · exact absurd (h'.1.trans (eq_of_beq h).symm) fun e => h'.2 (e ▸ List.mem_cons_self)
      · exact hrest
      · rw [List.getElem?_cons_succ, ih hrest,
          if_pos ⟨h'.1, fun hm => h'.2 (List.mem_cons_of_mem _ hm)⟩]
      · rw [List.getElem?_cons_succ, ih hrest, if_neg]
        rintro ⟨rfl, hm⟩
        refine h' ⟨rfl, fun hm' => ?_⟩
        rcases List.mem_cons.1 hm' with rfl | hm'
        · exact h (beq_self_eq_true _)
        · exact hm hm'

/-- **What the overlay leaves of a path variable.**  The induction is on the query, over whatever
the pairs before have left of the path. -/
theorem mergeParameters_getElem? (query : List (String × String))
    (hi : path[i]? = some (name, value)) :
    (mergeParameters path query)[i]? = some (name, effectiveValue path query i name value) := by
  unfold effectiveValue
  induction query generalizing path value with
  | nil =>
    rw [mergeParameters, List.foldl_nil, hi]
    split_ifs <;> rfl
  | cons q query ih =>
    have hlt : i ≤ path.length := Nat.le_of_lt (List.getElem?_eq_some_iff.1 hi).1
    have hstep := ih (write_getElem? q.1 q.2 hi)
    rw [write_take_names q.1 q.2 hlt] at hstep
    refine hstep.trans (congrArg (fun v => some (name, v)) ?_)
    obtain ⟨n, v⟩ := q
    by_cases hm : name ∈ (path.take i).map (·.1)
    · rw [if_pos hm, if_pos hm, if_neg fun h => h.2 hm]
    · rw [if_neg hm, if_neg hm, List.reverse_cons, List.lookup_append, List.lookup_singleton]
      by_cases hn : name = n
      · rw [if_pos ⟨hn, hm⟩, if_pos (beq_iff_eq.2 hn)]
        cases query.reverse.lookup name <;> rfl
      · rw [if_neg fun h => hn h.1, if_neg fun h => hn (beq_iff_eq.1 h), Option.or_none]

/-- A value stays as it is where the query does not have its name. -/
theorem effectiveValue_of_not_mem (h : name ∉ query.map (·.1)) :
    effectiveValue path query i name value = value := by
  have hnone : query.reverse.lookup name = none := by
    rw [List.lookup_eq_none_iff]
    intro q hq
    have hmem : q.1 ∈ query.map (·.1) := List.mem_map_of_mem (List.mem_reverse.1 hq)
    exact bne_iff_ne.2 fun e : name = q.1 => h (e ▸ hmem)
  rw [effectiveValue, hnone, Option.getD_none, ite_self]

/-! ## Values of a type -/

/-- **A value of a type**: any text, a positive integer without leading zeros, or a word for a
boolean. -/
def ParameterType.Conforms : ParameterType → String → Prop
  | string, _ => True
  | integer, value => ∃ first rest, value.toList = first :: rest ∧ ('1' ≤ first ∧ first ≤ '9') ∧
      ∀ c ∈ rest, '0' ≤ c ∧ c ≤ '9'
  | boolean, value => asciiLower value = "true" ∨ asciiLower value = "false"

theorem isDigit_iff {c : Char} : c.isDigit = true ↔ '0' ≤ c ∧ c ≤ '9' := by
  simp [Char.isDigit, Char.le_def]

theorem digit_ne_zero_iff {c : Char} : ('0' ≤ c ∧ c ≤ '9') ∧ c ≠ '0' ↔ '1' ≤ c ∧ c ≤ '9' := by
  rw [ne_eq, ← Char.toNat_inj]
  simp only [Char.le_def, UInt32.le_iff_toNat_le]
  change (48 ≤ c.toNat ∧ c.toNat ≤ 57) ∧ ¬ c.toNat = 48 ↔ 49 ≤ c.toNat ∧ c.toNat ≤ 57
  omega

/-- A positive integer without leading zeros. -/
theorem isPositiveDecimal_iff :
    isPositiveDecimal value = true ↔
      ∃ first rest, value.toList = first :: rest ∧ ('1' ≤ first ∧ first ≤ '9') ∧
        ∀ c ∈ rest, '0' ≤ c ∧ c ≤ '9' := by
  unfold isPositiveDecimal
  generalize value.toList = cs
  cases cs with
  | nil => simp
  | cons first rest =>
    simp only [Bool.and_eq_true, bne_iff_ne, List.all_eq_true, isDigit_iff, digit_ne_zero_iff]
    constructor
    · rintro ⟨hf, hr⟩
      exact ⟨first, rest, rfl, hf, hr⟩
    · rintro ⟨_, _, he, hf, hr⟩
      cases he
      exact ⟨hf, hr⟩

/-- **The values that pass are those of the type.** -/
theorem ParameterType.admits_iff {t : ParameterType} :
    t.admits value = true ↔ t.Conforms value := by
  cases t with
  | string => exact iff_of_true rfl trivial
  | integer => exact isPositiveDecimal_iff
  | boolean => simp [admits, Conforms, isBooleanWord]

end ApiContract
