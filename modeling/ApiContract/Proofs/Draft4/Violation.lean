import ApiContract.Draft4.Violation
import ApiContract.Proofs.Document.Check

/-!
# Proofs/Draft4/Violation — when an instance keeps a rule

An instance keeps rules when it has no violations of them.  Each rule has a lemma that says when it
is kept, so no proof about rules looks into the lists of violations.
-/

namespace ApiContract.Draft4

variable {pointer : String} {v : Json}

/-- What is demanded is told unless it holds. -/
@[simp] theorem demand_eq_nil_iff {holds : Bool} {message : String} :
    demand holds pointer message = [] ↔ holds = true := by
  cases holds <;> simp [demand]

/-- Rules are kept when each of them is. -/
theorem violations_eq_nil_iff {rules : List Rule} :
    violations pointer v rules = [] ↔ ∀ rule ∈ rules, ruleViolations pointer v rule = [] := by
  induction rules with
  | nil => exact iff_of_true rfl (List.forall_mem_nil _)
  | cons rule rules ih =>
    show ruleViolations pointer v rule ++ violations pointer v rules = [] ↔ _
    rw [List.append_eq_nil_iff, ih, List.forall_mem_cons]

theorem violations_append_eq_nil_iff {a b : List Rule} :
    violations pointer v (a ++ b) = [] ↔
      violations pointer v a = [] ∧ violations pointer v b = [] := by
  simp only [violations_eq_nil_iff, List.forall_mem_append]

/-! ## The plain rules -/

/-- A value keeps a type when it is of one of the names. -/
theorem type_kept_iff {names : List String} :
    ruleViolations pointer v (.type names) = [] ↔ ∃ name ∈ names, hasType v name = true := by
  show demand (names.any (hasType v)) pointer _ = [] ↔ _
  rw [demand_eq_nil_iff, List.any_eq_true]

theorem type_single_kept_iff {name : String} :
    ruleViolations pointer v (.type [name]) = [] ↔ hasType v name = true := by
  simp [type_kept_iff]

/-- A value keeps a list when it equals a value of it. -/
theorem enum_kept_iff {values : List Json} :
    ruleViolations pointer v (.enum values) = [] ↔ ∃ value ∈ values, v.equal value = true := by
  show demand (values.any v.equal) pointer _ = [] ↔ _
  rw [demand_eq_nil_iff, List.any_eq_true]

/-- Only strings can break a pattern, and an unfinished search breaks it. -/
theorem pattern_kept_iff {text : String} {p : Pattern} :
    ruleViolations pointer v (.pattern text (some p)) = [] ↔
      ∀ s, v = .string s → p.search s = .ok true := by
  cases v with
  | string s =>
    simp only [Json.string.injEq, forall_eq', ruleViolations]
    cases p.search s with
    | error f => exact iff_of_false (List.cons_ne_nil _ _) nofun
    | ok found => simp
  | _ => exact iff_of_true rfl nofun

/-- Only strings can be too short. -/
theorem minLength_kept_iff {n : Nat} :
    ruleViolations pointer v (.minLength n) = [] ↔ ∀ s, v = .string s → n ≤ s.length := by
  cases v with
  | string s =>
    show demand (n ≤ s.length) pointer _ = [] ↔ _
    simp
  | _ => exact iff_of_true rfl nofun

/-- Only objects can lack a name. -/
theorem required_kept_iff {names : List String} :
    ruleViolations pointer v (.required names) = [] ↔
      ∀ ms : Members, v = .object ms → ∀ name ∈ names, name ∈ ms.keys := by
  cases v with
  | object ms =>
    show (names.flatMap fun name => demand (Members.has ms name) pointer _) = [] ↔ _
    simp
  | _ => exact iff_of_true rfl nofun

/-! ## The rules of what stands below -/

theorem propertyViolations_eq_nil_iff {ms : Members} {declared : List (String × List Rule)} :
    propertyViolations pointer ms declared = [] ↔
      ∀ d ∈ declared, ∀ x, ms.get? d.1 = some x →
        violations (pointerTo pointer (escapeKey d.1)) x d.2 = [] := by
  induction declared with
  | nil => exact iff_of_true rfl (List.forall_mem_nil _)
  | cons d declared ih =>
    obtain ⟨name, rules⟩ := d
    rw [propertyViolations, List.append_eq_nil_iff, ih, List.forall_mem_cons]
    cases ms.get? name <;> simp

/-- The declared members of an object keep their rules. -/
theorem properties_kept_iff {ms : Members} {declared : List (String × List Rule)} :
    ruleViolations pointer (.object ms) (.properties declared) = [] ↔
      ∀ d ∈ declared, ∀ x, ms.get? d.1 = some x →
        violations (pointerTo pointer (escapeKey d.1)) x d.2 = [] :=
  propertyViolations_eq_nil_iff

/-- A member breaks only the rules that are declared under its key. -/
theorem memberViolations_eq_nil_iff {key : String} {declared : List (String × List Rule)} :
    memberViolations pointer v key declared = [] ↔
      ∀ rules, declared.lookup key = some rules → violations pointer v rules = [] := by
  induction declared with
  | nil => exact iff_of_true rfl nofun
  | cons d declared ih =>
    obtain ⟨name, rules⟩ := d
    show (if key == name then violations pointer v rules
      else memberViolations pointer v key declared) = [] ↔ _
    rw [List.lookup_cons]
    cases key == name with
    | true => simp
    | false => exact ih

/-- Every member of an object is declared, and keeps its rules. -/
theorem members_closed_kept_iff {ms : Members} {declared : List (String × List Rule)} :
    ruleViolations pointer (.object ms) (.members declared none) = [] ↔
      ∀ m ∈ ms, ∃ rules, declared.lookup m.1 = some rules ∧
        violations (pointerTo pointer (escapeKey m.1)) m.2 rules = [] := by
  show (ms.flatMap fun m =>
      memberViolations (pointerTo pointer (escapeKey m.1)) m.2 m.1 declared) ++
    demand (ms.keys.filter fun key => (declared.lookup key).isNone).isEmpty pointer _ = [] ↔ _
  rw [List.append_eq_nil_iff, List.flatMap_eq_nil_iff, demand_eq_nil_iff, List.isEmpty_iff,
    List.filter_eq_nil_iff, Members.keys, List.forall_mem_map, ← forall₂_and]
  refine forall₂_congr fun m _ => ?_
  rw [memberViolations_eq_nil_iff]
  cases declared.lookup m.1 with
  | none => simp
  | some rules => simp

/-- Every member of an object keeps the rules declared for it, or else those of the others. -/
theorem members_ruled_kept_iff {ms : Members} {declared : List (String × List Rule)}
    {others : List Rule} :
    ruleViolations pointer (.object ms) (.members declared (some others)) = [] ↔
      ∀ m ∈ ms, violations (pointerTo pointer (escapeKey m.1)) m.2
        ((declared.lookup m.1).getD others) = [] := by
  show (ms.flatMap fun m =>
    if (declared.lookup m.1).isSome then
      memberViolations (pointerTo pointer (escapeKey m.1)) m.2 m.1 declared
    else violations (pointerTo pointer (escapeKey m.1)) m.2 others) = [] ↔ _
  rw [List.flatMap_eq_nil_iff]
  refine forall₂_congr fun m _ => ?_
  cases h : declared.lookup m.1 with
  | none => rfl
  | some rules => simp [memberViolations_eq_nil_iff, h]

theorem items_kept_iff {items : List Json} {rules : List Rule} :
    ruleViolations pointer (.array items) (.items rules) = [] ↔
      ∀ x ∈ items.zipIdx, violations (pointerTo pointer (toString x.2)) x.1 rules = [] :=
  List.flatMap_eq_nil_iff

/-- The branches that are kept, counted. -/
theorem keptBranches_eq_countP {branches : List (List Rule)} :
    keptBranches v branches = branches.countP fun rules => (violations "" v rules).isEmpty := by
  induction branches with
  | nil => rfl
  | cons rules branches ih =>
    show (if (violations "" v rules).isEmpty then 1 else 0) + keptBranches v branches = _
    rw [ih, List.countP_cons, Nat.add_comm]

/-- A union is kept by exactly one of its branches, or broken by none or by several. -/
theorem oneOf_kept_iff {branches : List (List Rule)} :
    ruleViolations pointer v (.oneOf branches) = [] ↔ keptBranches v branches = 1 := by
  rw [ruleViolations]
  split
  next h => exact iff_of_false (List.cons_ne_nil _ _) (by omega)
  next h => exact iff_of_true rfl h
  next h => exact iff_of_false (List.cons_ne_nil _ _) h

end ApiContract.Draft4
