import ApiContract.Proofs.Draft4.Evaluator
import ApiContract.Proofs.Schema.Nullable

/-!
# Proofs/Draft4/Nullable — what accepting null besides means to the evaluator

**`evaluate_nullable_iff`**: a nullable node accepts what it accepts without its `nullable`, and
null besides where it lists no values.  A schema says that it accepts null in two ways, by the names
of its type or by a union with the null schema; `evaluate_orNull_iff` shows them to come to the
same, but for listed values: those of a primitive schema are asked for whatever its type says, and
null is never among them.
-/

namespace ApiContract.Draft4

open Schema

variable {pointer : String} {v : Json}

/-! ## Compiling -/

theorem compiles_orNull_iff {s : Schema} : Compiles s.orNull ↔ Compiles s := by
  have hunion {s : Schema} : Compiles (.oneOf [s, .null]) ↔ Compiles s := by
    rw [compiles_oneOf_iff]
    simp [compiles_null]
  cases s with
  | object => exact hunion
  | array => exact hunion
  | oneOf => exact hunion
  | null => exact Iff.rfl
  | string rules => rw [orNull, compiles_string_iff, compiles_string_iff]
  | integer rules => exact iff_of_true compiles_integer compiles_integer
  | boolean rules => exact iff_of_true compiles_boolean compiles_boolean
  | float rules => exact iff_of_true compiles_float compiles_float

/-! ## Null by the names of a type -/

/-- Where null is named beside a type, null is accepted that keeps the other rules. -/
theorem typeRule_true_kept_iff {name : String} {acceptsNull : Bool} {rules : List Rule} :
    violations pointer v (typeRule name true :: rules) = [] ↔
      (v = .null ∧ violations pointer .null rules = []) ∨
        violations pointer v (typeRule name acceptsNull :: rules) = [] := by
  rw [violations, violations, List.append_eq_nil_iff, List.append_eq_nil_iff, typeRule_kept_iff,
    typeRule_kept_iff]
  by_cases hv : v = .null
  · subst hv
    constructor
    · rintro ⟨-, hrules⟩
      exact .inl ⟨rfl, hrules⟩
    · rintro (⟨-, hrules⟩ | ⟨-, hrules⟩)
      · exact ⟨.inr ⟨rfl, rfl⟩, hrules⟩
      · exact ⟨.inr ⟨rfl, rfl⟩, hrules⟩
  · simp [hv]

/-- Values that are listed are asked of null too, and it is none of them. -/
theorem enumRules_kept_by_null_iff {α : Type} {value : α → Json} {members : Option (List α)}
    (hvalue : ∀ a, Json.equal .null (value a) = false) :
    violations pointer .null (enumRules value members) = [] ↔ members.isSome = false := by
  rw [enumRules_kept_iff]
  cases members <;> simp [hvalue]

/-- A primitive schema other than a string accepts null besides, if it lists no values. -/
theorem choice_orNull_kept_iff {α : Type} {name : String} {value : α → Json}
    {s : Schema} {rules : Choice α}
    (hs : s.render = .object (choiceKeywords name value rules))
    (horNull : s.orNull.render =
      .object (choiceKeywords name value { rules with acceptsNull := true }))
    (henum : s.isEnumerated = rules.members.isSome)
    (hvalue : ∀ a, Json.equal .null (value a) = false) :
    violations pointer v (rulesOf s.orNull.render) = [] ↔
      (v = .null ∧ s.isEnumerated = false) ∨ violations pointer v (rulesOf s.render) = [] := by
  rw [hs, horNull, henum, rulesOf_choiceKeywords, rulesOf_choiceKeywords,
    ← enumRules_kept_by_null_iff hvalue]
  exact typeRule_true_kept_iff

theorem stringRules_kept_by_null_iff {rules : StringRules} :
    violations pointer .null (enumRules .string rules.members ++ patternRules rules.pattern ++
      minLengthRules rules.minLength) = [] ↔ rules.members.isSome = false := by
  have hpattern : violations pointer .null (patternRules rules.pattern) = [] := by
    rw [violations_eq_nil_iff, patternRules, forall_mem_toList_map_iff]
    intro text _
    cases Pattern.ofText? text <;> rfl
  have hmin : violations pointer .null (minLengthRules rules.minLength) = [] := by
    rw [violations_eq_nil_iff, minLengthRules, forall_mem_toList_map_iff]
    exact fun n _ => rfl
  rw [violations_append_eq_nil_iff, violations_append_eq_nil_iff, and_iff_left hmin,
    and_iff_left hpattern, enumRules_kept_by_null_iff fun _ => rfl]

/-! ## Null by a union -/

/-- A schema of a type, or null: exactly one of the two holds as null is not of the type. -/
theorem union_null_kept_iff {s : Schema} {name : String} {rules : List Rule}
    (hs : rulesOf s.render = .type [name] :: rules) (hname : hasType .null name = false) :
    violations "" v (rulesOf (Schema.oneOf [s, .null]).render) = [] ↔
      v = .null ∨ violations "" v (rulesOf s.render) = [] := by
  have hviolated : violations "" .null (rulesOf s.render) ≠ [] := by
    rw [hs, violations, ne_eq, List.append_eq_nil_iff, type_single_kept_iff, hname]
    exact fun h => Bool.false_ne_true h.1
  have hnull : violations "" v (rulesOf Schema.null.render) = [] ↔ v = .null := by
    rw [rulesOf_render_null, violations, violations, List.append_nil, type_single_kept_iff,
      hasType_null_iff]
  rw [rulesOf_render_oneOf, violations, violations, List.append_nil, oneOf_kept_iff, List.map_cons,
    List.map_cons, List.map_nil, keptBranches, keptBranches, keptBranches]
  simp only [List.isEmpty_iff, hnull]
  by_cases hv : v = .null
  · subst hv
    simp [hviolated]
  · simp [hv]

/-! ## Schemas and nodes -/

/-- **A schema made to accept null** accepts null, if it lists no values, and what it accepted
before. -/
theorem evaluate_orNull_iff {s : Schema} (hunion : ∀ branches, s ≠ .oneOf branches)
    (hs : Compiles s) :
    evaluate s.orNull v = .ok () ↔
      (v = .null ∧ s.isEnumerated = false) ∨ evaluate s v = .ok () := by
  rw [evaluate_eq_ok_iff, evaluate_eq_ok_iff, and_iff_right (compiles_orNull_iff.2 hs),
    and_iff_right hs]
  cases s with
  | object properties required additional =>
    have hnone : (Schema.object properties required additional).isEnumerated = false := rfl
    rw [and_iff_left hnone]
    exact union_null_kept_iff rulesOf_render_object rfl
  | array items =>
    have hnone : (Schema.array items).isEnumerated = false := rfl
    rw [and_iff_left hnone]
    exact union_null_kept_iff rulesOf_render_array rfl
  | string rules =>
    rw [orNull, rulesOf_render_string, rulesOf_render_string, isEnumerated,
      ← stringRules_kept_by_null_iff]
    exact typeRule_true_kept_iff
  | integer rules => exact choice_orNull_kept_iff rfl rfl rfl fun _ => rfl
  | boolean rules => exact choice_orNull_kept_iff rfl rfl rfl fun _ => rfl
  | float rules => exact choice_orNull_kept_iff rfl rfl rfl fun _ => rfl
  | null =>
    rw [orNull, rulesOf_render_null, violations, violations, List.append_nil, type_single_kept_iff,
      hasType_null_iff]
    exact ⟨.inr, fun h => h.elim And.left id⟩
  | oneOf branches => exact absurd rfl (hunion branches)

/-- **A nullable node** accepts null, if it lists no values, and what it accepts without its
`nullable`. -/
theorem evaluate_nullable_iff {components : Components} {p : Location} {ms : Members} {c : Schema}
    (hn : ms.get? "nullable" = some (.bool true))
    (hc : Schema.ofJson components p (.object ms) = .ok c) :
    ∃ c₀, Schema.ofJson components p (.object (ms.without "nullable")) = .ok c₀ ∧
      (Compiles c₀ → ∀ v, evaluate c v = .ok () ↔
        (v = .null ∧ ms.get? "enum" = none) ∨ evaluate c₀ v = .ok ()) := by
  obtain ⟨s, hs, rfl, hunion, henum⟩ :=
    Schema.exists_declaredBy_without hn (Schema.declaredBy_of_ofJson hc)
  refine ⟨s, Schema.ofJson_of_declaredBy hs p, fun hcompiles v => ?_⟩
  rw [evaluate_orNull_iff hunion hcompiles, henum, Option.isSome_eq_false_iff,
    Option.isNone_iff_eq_none]

/-! ### Two nullable nodes -/

/-- A list of strings, or null. -/
def nullableNames : Members :=
  [("type", .string "array"), ("items", .object [("type", .string "string")]),
    ("nullable", .bool true)]

/-- No value is listed there, so null is accepted. -/
theorem nullableNames_accepts_null :
    ∃ c, Schema.ofJson [] "" (.object nullableNames) = .ok c ∧ evaluate c .null = .ok () := by
  have hc : Schema.ofJson [] "" (.object nullableNames) =
      .ok (.oneOf [.array (.string {}), .null]) := by
    rw [nullableNames, @Schema.ofJson_of_array _ _ _ _ (some (.bool true)) rfl, ofJson_string]
    rfl
  have hnames : Schema.ofJson [] "" (.object (nullableNames.without "nullable")) =
      .ok (.array (.string {})) := by
    rw [@Schema.ofJson_of_array _ _ _ (.object [("type", .string "string")]) none rfl,
      ofJson_string]
    rfl
  have hcompiles : Compiles (.array (.string {})) :=
    compiles_array_iff.2 (compiles_string_iff.2 nofun)
  obtain ⟨c₀, hc₀, h⟩ := evaluate_nullable_iff rfl hc
  obtain rfl : Schema.array (.string {}) = c₀ := Except.ok.inj (hnames.symm.trans hc₀)
  exact ⟨_, hc, (h hcompiles .null).2 (.inl ⟨rfl, rfl⟩)⟩

/-- A string of a list of one, or null: the list leaves null out. -/
def nullableLetter : Members :=
  [("type", .string "string"), ("enum", .array [.string "a"]), ("nullable", .bool true)]

/-- A nullable node that lists its values does not accept null. -/
theorem nullableLetter_rejects_null :
    ¬ ∀ (components : Components) (p : Location) (ms : Members) (c c₀ : Schema),
      ms.get? "nullable" = some (.bool true) →
      Schema.ofJson components p (.object ms) = .ok c →
      Schema.ofJson components p (.object (ms.without "nullable")) = .ok c₀ →
      Compiles c₀ →
      ∀ v, evaluate c v = .ok () ↔ v = .null ∨ evaluate c₀ v = .ok () := by
  intro h
  have hc : Schema.ofJson [] "" (.object nullableLetter) =
      .ok (.string { acceptsNull := true, members := some ["a"] }) := by
    rw [nullableLetter,
      @Schema.ofJson_of_primitive _ _ _ (.string { members := some ["a"] }) (some (.bool true)) rfl]
    rfl
  have hc₀ : Schema.ofJson [] "" (.object (nullableLetter.without "nullable")) =
      .ok (.string { members := some ["a"] }) :=
    @Schema.ofJson_of_primitive _ _ _ (.string { members := some ["a"] }) none rfl
  have hcompiles : Compiles (.string { members := some ["a"] }) := compiles_string_iff.2 nofun
  have hnull := (h [] "" nullableLetter _ _ rfl hc hc₀ hcompiles .null).2 (.inl rfl)
  rw [evaluate_eq_ok_iff, rulesOf_render_string, violations, List.append_eq_nil_iff,
    stringRules_kept_by_null_iff] at hnull
  cases hnull.2.2

end ApiContract.Draft4
