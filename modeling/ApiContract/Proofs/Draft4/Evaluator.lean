import ApiContract.Proofs.Draft4.Metaschema
import ApiContract.Proofs.Draft4.Violation
import ApiContract.Proofs.Json.Reader
import ApiContract.Proofs.Schema.Distinct
import Mathlib.Data.Fin.Basic

/-!
# Proofs/Draft4/Evaluator — rendering keeps the meaning of a schema

**`evaluate_eq_ok_iff_conforms`**: an instance is accepted exactly when it conforms.  An instance
keeps the rules of a rendered schema exactly when it conforms to the schema, which goes by induction
over the schema (`faithful`); and a schema of the theorem compiles, so there is nothing but its
rules.
-/

namespace ApiContract

/-! ## Exactly one -/

/-- Exactly one element of a list has a property when it does at exactly one place. -/
theorem countP_eq_one_iff_existsUnique {α : Type} {p : α → Bool} {xs : List α} :
    xs.countP p = 1 ↔ ∃! i : Fin xs.length, p xs[i] = true := by
  induction xs with
  | nil => exact iff_of_false nofun fun ⟨i, _⟩ => i.elim0
  | cons x xs ih =>
    by_cases hx : p x = true
    · -- it is the first, and none of the others
      rw [List.countP_cons_of_pos hx, Nat.add_eq_right, List.countP_eq_zero]
      constructor
      · intro hnone
        refine ⟨0, hx, fun i hi => ?_⟩
        cases i using Fin.cases with
        | zero => rfl
        | succ j => exact absurd hi (hnone _ (List.getElem_mem j.2))
      · rintro ⟨i, -, hunique⟩ y hy hpy
        obtain ⟨j, hj, rfl⟩ := List.getElem_of_mem hy
        have hzero : (0 : Fin (xs.length + 1)) = i := hunique 0 hx
        have hsucc : (⟨j, hj⟩ : Fin xs.length).succ = i := hunique _ hpy
        exact absurd (hsucc.trans hzero.symm) (Fin.succ_ne_zero _)
    · -- it is one of the others, each of which stands one place further on
      rw [List.countP_cons_of_neg hx, ih]
      constructor
      · rintro ⟨j, hj, hunique⟩
        refine ⟨j.succ, hj, fun i hi => ?_⟩
        cases i using Fin.cases with
        | zero => exact absurd hi hx
        | succ k => exact congrArg Fin.succ (hunique k hi)
      · rintro ⟨i, hi, hunique⟩
        cases i using Fin.cases with
        | zero => exact absurd hi hx
        | succ j => exact ⟨j, hi, fun k hk => Fin.succ_inj.1 (hunique k.succ hk)⟩

namespace Draft4

open Schema

variable {pointer : String} {v : Json}

/-! ## Primitive values -/

/-- A value equals a text when it is that text. -/
theorem equal_string_iff {s : String} : v.equal (.string s) = true ↔ v = .string s := by
  cases v with
  | string t => exact beq_iff_eq.trans (Json.string.injEq t s).symm.to_iff
  | _ => exact iff_of_false Bool.false_ne_true fun h => Json.noConfusion h

/-- A value equals a flag when it is that flag. -/
theorem equal_bool_iff {b : Bool} : v.equal (.bool b) = true ↔ v = .bool b := by
  cases v with
  | bool c => exact beq_iff_eq.trans (Json.bool.injEq c b).symm.to_iff
  | _ => exact iff_of_false Bool.false_ne_true fun h => Json.noConfusion h

/-- A value equals a number when it is a number of the same value, however it is written. -/
theorem equal_number_iff {n : Json.Number} :
    v.equal (.number n) = true ↔ Json.IsNumber n.toRat v := by
  cases v with
  | number m =>
    show (m.toRat == n.toRat) = true ↔ ∃ k, Json.number m = .number k ∧ k.toRat = n.toRat
    simp
  | _ => exact iff_of_false Bool.false_ne_true fun ⟨_, h, _⟩ => Json.noConfusion h

/-- Null alone is of the type `null`. -/
theorem hasType_null_iff : hasType v "null" = true ↔ v = .null := by
  cases v with
  | null => exact iff_of_true rfl rfl
  | _ => exact iff_of_false Bool.false_ne_true fun h => Json.noConfusion h

theorem hasType_string_iff : hasType v "string" = true ↔ ∃ s, v = .string s := by
  cases v with
  | string s => exact iff_of_true rfl ⟨s, rfl⟩
  | _ => exact iff_of_false Bool.false_ne_true nofun

theorem hasType_boolean_iff : hasType v "boolean" = true ↔ ∃ b, v = .bool b := by
  cases v with
  | bool b => exact iff_of_true rfl ⟨b, rfl⟩
  | _ => exact iff_of_false Bool.false_ne_true nofun

theorem hasType_number_iff : hasType v "number" = true ↔ ∃ n, v = .number n := by
  cases v with
  | number n => exact iff_of_true rfl ⟨n, rfl⟩
  | _ => exact iff_of_false Bool.false_ne_true fun ⟨_, h⟩ => Json.noConfusion h

/-- Whole numbers are of the type `integer` where they are written as such. -/
theorem hasType_integer_iff : hasType v "integer" = true ↔ ∃ n fits, v = .number (.int n fits) := by
  cases v with
  | number n =>
    cases n with
    | int n fits => exact iff_of_true rfl ⟨n, fits, rfl⟩
    | float x => exact iff_of_false Bool.false_ne_true fun ⟨_, _, h⟩ => nomatch Json.number.inj h
  | _ => exact iff_of_false Bool.false_ne_true fun ⟨_, _, h⟩ => Json.noConfusion h

theorem hasType_array_iff : hasType v "array" = true ↔ ∃ items, v = .array items := by
  cases v with
  | array items => exact iff_of_true rfl ⟨items, rfl⟩
  | _ => exact iff_of_false Bool.false_ne_true nofun

/-- Objects alone are of the type `object`. -/
theorem hasType_object_iff : hasType v "object" = true ↔ ∃ ms : Members, v = .object ms := by
  cases v with
  | object ms => exact iff_of_true rfl ⟨ms, rfl⟩
  | _ => exact iff_of_false Bool.false_ne_true nofun

section Choice

variable {α : Type} {name : String} {value : α → Json}

/-- The type of a primitive value is kept by its instances, and by null where null is accepted. -/
theorem typeRule_kept_iff {acceptsNull : Bool} :
    ruleViolations pointer v (typeRule name acceptsNull) = [] ↔
      hasType v name = true ∨ acceptsNull = true ∧ v = .null := by
  rw [typeRule, type_kept_iff]
  cases acceptsNull <;> simp [hasType_null_iff]

/-- A list of values is kept by what equals one of them, and no list by everything. -/
theorem enumRules_kept_iff {members : Option (List α)} :
    violations pointer v (enumRules value members) = [] ↔
      ∀ members', members = some members' → ∃ a ∈ members', v.equal (value a) = true := by
  cases members with
  | none => simp [enumRules, violations]
  | some members => simp [enumRules, violations_eq_nil_iff, enum_kept_iff]

/-- The rules of a choice are kept when its values are told by their documents. -/
theorem choice_kept_iff {isKind : Json → Prop} {is : α → Json → Prop} {rules : Choice α}
    (hkind : hasType v name = true ↔ isKind v) (his : ∀ a, v.equal (value a) = true ↔ is a v) :
    violations pointer v (typeRule name rules.acceptsNull :: enumRules value rules.members) = [] ↔
      rules.Conforms isKind is v := by
  rw [violations, List.append_eq_nil_iff, typeRule_kept_iff, enumRules_kept_iff, hkind]
  simp only [his]
  exact ⟨fun h => ⟨h.1, h.2⟩, fun h => ⟨h.kind, h.member⟩⟩

end Choice

/-- The rule of a text that is a pattern is kept by the strings that have a match of it. -/
theorem pattern_kept_iff_matches {text : String} (h : (Pattern.ofText? text).isSome) :
    ruleViolations pointer v (.pattern text (Pattern.ofText? text)) = [] ↔
      ∀ s, v = .string s → Pattern.Matches text s := by
  obtain ⟨p, hp⟩ := Option.isSome_iff_exists.1 h
  rw [hp, pattern_kept_iff]
  refine forall₂_congr fun s _ => ⟨fun hs => ⟨p, hp, hs⟩, ?_⟩
  rintro ⟨p', hp', hs⟩
  rw [hp] at hp'
  exact Option.some.inj hp' ▸ hs

/-- The rules of a string are kept by what conforms to it. -/
theorem string_kept_iff {rules : StringRules}
    (hp : ∀ text, rules.pattern = some text → (Pattern.ofText? text).isSome) :
    violations pointer v (rulesOf (Schema.string rules).render) = [] ↔ rules.Conforms v := by
  have hchoice :
      violations pointer v
          (typeRule "string" rules.acceptsNull :: enumRules .string rules.members) = [] ↔
        rules.toChoice.Conforms (fun v => ∃ s, v = .string s) (fun s v => v = .string s) v :=
    choice_kept_iff hasType_string_iff fun s => equal_string_iff
  have hpattern : violations pointer v (patternRules rules.pattern) = [] ↔
      ∀ text, rules.pattern = some text → ∀ s, v = .string s → Pattern.Matches text s := by
    rw [violations_eq_nil_iff, patternRules, forall_mem_toList_map_iff]
    exact forall₂_congr fun text htext => pattern_kept_iff_matches (hp text htext)
  have hmin : violations pointer v (minLengthRules rules.minLength) = [] ↔
      ∀ n, rules.minLength = some n → ∀ s, v = .string s → n.1 ≤ s.length := by
    rw [violations_eq_nil_iff, minLengthRules, forall_mem_toList_map_iff]
    exact forall₂_congr fun n _ => minLength_kept_iff
  rw [rulesOf_render_string, ← List.cons_append, ← List.cons_append, violations_append_eq_nil_iff,
    violations_append_eq_nil_iff, hchoice, hpattern, hmin]
  constructor
  · rintro ⟨⟨choice, pattern⟩, minLength⟩
    exact ⟨choice, fun s text hs ht => pattern text ht s hs, fun s n hs hn => minLength n hn s hs⟩
  · rintro ⟨choice, pattern, minLength⟩
    exact ⟨⟨choice, fun text ht s hs => pattern s text hs ht⟩, fun n hn s hs => minLength s n hs hn⟩

/-! ## The members of objects -/

/-- **A schema is rendered faithfully for an instance**: its rules are kept exactly when the
instance conforms. -/
def Faithful (s : Schema) (v : Json) : Prop :=
  ∀ pointer, violations pointer v (rulesOf s.render) = [] ↔ s.Conforms v

section Object

variable {properties : List (String × Schema)} {required : List String} {ms : Members}
  {key : String}

/-- The rules of a declared member are those of its schema. -/
theorem lookup_declared_eq_some_iff {rules : List Rule} (h : (properties.map (·.1)).Nodup) :
    (properties.map fun q => (q.1, rulesOf q.2.render)).lookup key = some rules ↔
      ∃ s, (key, s) ∈ properties ∧ rulesOf s.render = rules := by
  have hnames : ((properties.map fun q => (q.1, rulesOf q.2.render)).map (·.1)).Nodup := by
    rwa [List.map_map]
  rw [lookup_eq_some_iff hnames, List.mem_map]
  constructor
  · rintro ⟨⟨name, s⟩, hq, heq⟩
    obtain ⟨rfl, rfl⟩ := Prod.mk.inj heq
    exact ⟨s, hq, rfl⟩
  · rintro ⟨s, hq, rfl⟩
    exact ⟨(key, s), hq, rfl⟩

/-- Members that are not declared have no rules of their own. -/
theorem lookup_declared_eq_none_iff (h : (properties.map (·.1)).Nodup) :
    (properties.map fun q => (q.1, rulesOf q.2.render)).lookup key = none ↔
      key ∉ properties.map (·.1) := by
  rw [Option.eq_none_iff_forall_ne_some, List.mem_map]
  simp only [ne_eq, lookup_declared_eq_some_iff h]
  constructor
  · rintro hnone ⟨⟨name, s⟩, hq, rfl⟩
    exact hnone _ ⟨s, hq, rfl⟩
  · rintro hnone rules ⟨s, hq, -⟩
    exact hnone ⟨_, hq, rfl⟩

/-- The required names are keys of the object. -/
theorem requiredRules_kept_iff :
    violations pointer (.object ms) (requiredRules required) = [] ↔
      ∀ name ∈ required, name ∈ ms.keys := by
  unfold requiredRules
  split_ifs with h
  · subst h
    simp [violations]
  · simp [violations_eq_nil_iff, required_kept_iff]

/-- The rules of a declared member are kept when the schemas it is declared with are conformed
to. -/
theorem declared_kept_iff {s : Schema} (hnames : (properties.map (·.1)).Nodup)
    (hs : (key, s) ∈ properties) (ih : Faithful s v) :
    violations pointer v (rulesOf s.render) = [] ↔
      ∀ s', (key, s') ∈ properties → s'.Conforms v := by
  rw [ih pointer]
  refine ⟨fun h s' hs' => ?_, fun h => h s hs⟩
  have hsame : some s = some s' :=
    ((lookup_eq_some_iff hnames).2 hs).symm.trans ((lookup_eq_some_iff hnames).2 hs')
  exact Option.some.inj hsame ▸ h

/-- The declared members keep their rules, in an object whose other members are free. -/
theorem properties_kept_iff_conforms (hkeys : ms.keys.Nodup)
    (ih : ∀ q ∈ properties, ∀ m ∈ ms, Faithful q.2 m.2) :
    ruleViolations pointer (.object ms)
        (.properties (properties.map fun q => (q.1, rulesOf q.2.render))) = [] ↔
      ∀ m ∈ ms, ∀ s, (m.1, s) ∈ properties → s.Conforms m.2 := by
  rw [properties_kept_iff, List.forall_mem_map]
  simp only [Members.get?_eq_some_iff hkeys]
  constructor
  · intro h m hm s hs
    exact (ih (m.1, s) hs m hm _).1 (h (m.1, s) hs m.2 hm)
  · intro h q hq x hx
    exact (ih q hq (q.1, x) hx _).2 (h (q.1, x) hx q.2 hq)

/-- Every member is declared and keeps its rules, in an object that has no others. -/
theorem closed_kept_iff_conforms (hnames : (properties.map (·.1)).Nodup)
    (ih : ∀ q ∈ properties, ∀ m ∈ ms, Faithful q.2 m.2) :
    ruleViolations pointer (.object ms)
        (.members (properties.map fun q => (q.1, rulesOf q.2.render)) none) = [] ↔
      (∀ m ∈ ms, ∀ s, (m.1, s) ∈ properties → s.Conforms m.2) ∧
        ∀ m ∈ ms, m.1 ∈ properties.map (·.1) := by
  rw [members_closed_kept_iff, ← forall₂_and]
  refine forall₂_congr fun m hm => ?_
  constructor
  · rintro ⟨rules, hlookup, hkept⟩
    obtain ⟨s, hs, rfl⟩ := (lookup_declared_eq_some_iff hnames).1 hlookup
    exact ⟨(declared_kept_iff hnames hs (ih _ hs m hm)).1 hkept, List.mem_map.2 ⟨_, hs, rfl⟩⟩
  · rintro ⟨hconforms, hdeclared⟩
    obtain ⟨⟨name, s⟩, hs, hname⟩ := List.mem_map.1 hdeclared
    obtain rfl : name = m.1 := hname
    exact ⟨_, (lookup_declared_eq_some_iff hnames).2 ⟨s, hs, rfl⟩,
      (declared_kept_iff hnames hs (ih _ hs m hm)).2 hconforms⟩

/-- Every member keeps the rules of its own or those of the others. -/
theorem ruled_kept_iff_conforms {others : Schema} (hnames : (properties.map (·.1)).Nodup)
    (ih : ∀ q ∈ properties, ∀ m ∈ ms, Faithful q.2 m.2) (ihothers : ∀ m ∈ ms, Faithful others m.2) :
    ruleViolations pointer (.object ms)
        (.members (properties.map fun q => (q.1, rulesOf q.2.render))
          (some (rulesOf others.render))) = [] ↔
      (∀ m ∈ ms, ∀ s, (m.1, s) ∈ properties → s.Conforms m.2) ∧
        ∀ m ∈ ms, m.1 ∉ properties.map (·.1) → others.Conforms m.2 := by
  rw [members_ruled_kept_iff, ← forall₂_and]
  refine forall₂_congr fun m hm => ?_
  by_cases hdeclared : m.1 ∈ properties.map (·.1)
  · obtain ⟨⟨name, s⟩, hs, hname⟩ := List.mem_map.1 hdeclared
    obtain rfl : name = m.1 := hname
    rw [(lookup_declared_eq_some_iff hnames).2 ⟨s, hs, rfl⟩, Option.getD_some,
      declared_kept_iff hnames hs (ih _ hs m hm)]
    exact (and_iff_left fun h => absurd hdeclared h).symm
  · rw [(lookup_declared_eq_none_iff hnames).2 hdeclared, Option.getD_none, ihothers m hm]
    refine ⟨fun h => ⟨fun s hs => ?_, fun _ => h⟩, fun h => h.2 hdeclared⟩
    exact absurd (List.mem_map.2 ⟨_, hs, rfl⟩) hdeclared

/-- The rules of an object are kept when its members conform. -/
theorem object_faithful {additional : Additional Schema} (hnames : (properties.map (·.1)).Nodup)
    (hkeys : ms.keys.Nodup) (ih : ∀ q ∈ properties, ∀ m ∈ ms, Faithful q.2 m.2)
    (ihothers : ∀ s, additional = .schema s → ∀ m ∈ ms, Faithful s m.2) :
    Faithful (.object properties required additional) (.object ms) := by
  intro pointer
  have htype : ruleViolations pointer (.object ms) (.type ["object"]) = [] := rfl
  have hconforms : (Schema.object properties required additional).Conforms (.object ms) ↔
      (∀ name ∈ required, name ∈ ms.keys) ∧
        (∀ m ∈ ms, ∀ s, (m.1, s) ∈ properties → s.Conforms m.2) ∧
        (additional = .allowed false → ∀ m ∈ ms, m.1 ∈ properties.map (·.1)) ∧
        ∀ s, additional = .schema s → ∀ m ∈ ms, m.1 ∉ properties.map (·.1) → s.Conforms m.2 := by
    rw [Schema.Conforms]
    simp
  rw [rulesOf_render_object, violations, htype, List.nil_append, hconforms]
  cases additional with
  | allowed flag =>
    cases flag with
    | true =>
      rw [memberRules, violations, List.append_eq_nil_iff, requiredRules_kept_iff,
        properties_kept_iff_conforms hkeys ih]
      simp [and_comm]
    | false =>
      rw [memberRules, violations_append_eq_nil_iff, requiredRules_kept_iff, violations, violations,
        List.append_nil, closed_kept_iff_conforms hnames ih]
      simp
  | schema s =>
    rw [memberRules, violations_append_eq_nil_iff, requiredRules_kept_iff, violations, violations,
      List.append_nil, ruled_kept_iff_conforms hnames ih (ihothers s rfl)]
    simp

end Object

/-! ## Schemas -/

/-- The rules of an array are kept when its elements conform. -/
theorem array_faithful {items : Schema} {vs : List Json} (ih : ∀ x ∈ vs, Faithful items x) :
    Faithful (.array items) (.array vs) := by
  intro pointer
  have htype : ruleViolations pointer (.array vs) (.type ["array"]) = [] := rfl
  have hconforms : (Schema.array items).Conforms (.array vs) ↔ ∀ x ∈ vs, items.Conforms x := by
    rw [Schema.Conforms]
    simp
  rw [rulesOf_render_array, violations, violations, violations, htype, List.nil_append,
    List.append_nil, items_kept_iff, hconforms]
  constructor
  · intro h x hx
    obtain ⟨i, hi, rfl⟩ := List.getElem_of_mem hx
    exact (ih _ hx _).1
      (h (vs[i], i) (List.mem_zipIdx_iff_getElem?.2 (List.getElem?_eq_getElem hi)))
  · rintro h ⟨x, i⟩ hx
    have hmem : x ∈ vs := List.fst_mem_of_mem_zipIdx hx
    exact (ih x hmem _).2 (h x hmem)

/-- The rules of a union are kept when exactly one branch is conformed to. -/
theorem oneOf_faithful {branches : List Schema} (ih : ∀ s ∈ branches, Faithful s v) :
    Faithful (.oneOf branches) v := by
  intro pointer
  rw [rulesOf_render_oneOf, violations, violations, List.append_nil, oneOf_kept_iff,
    keptBranches_eq_countP, List.countP_map, countP_eq_one_iff_existsUnique, Schema.Conforms]
  refine existsUnique_congr fun i => ?_
  rw [Function.comp_apply, List.isEmpty_iff]
  exact ih _ (List.getElem_mem i.2) _

/-- A schema whose instances are all of one type is rendered faithfully for instances of others. -/
theorem faithful_of_not_hasType {s : Schema} {name : String} {rules : List Rule}
    (hs : rulesOf s.render = .type [name] :: rules) (hname : ¬ hasType v name = true)
    (hv : ¬ s.Conforms v) : Faithful s v := by
  intro pointer
  refine iff_of_false (fun h => hname ?_) hv
  rw [hs, violations, List.append_eq_nil_iff, type_single_kept_iff] at h
  exact h.1

/-- **Rendering keeps the meaning of a schema**: the rules of its document are kept exactly by the
instances that conform to it. -/
theorem faithful {c : Schema} (names : c.HasDistinctNames) (patterns : c.HasPatterns) {v : Json}
    (keys : v.HasDistinctKeys) : Faithful c v := by
  induction c using Schema.inductBelow generalizing v with
  | object properties required additional ihproperties ihadditional =>
    by_cases hv : hasType v "object" = true
    · obtain ⟨ms, rfl⟩ := hasType_object_iff.1 hv
      obtain ⟨hkeys, hms⟩ : ms.keys.Nodup ∧ ∀ m ∈ ms, m.2.HasDistinctKeys := by
        cases keys with
        | object hkeys hms => exact ⟨hkeys, hms⟩
      refine object_faithful (names _ _ _ .refl).1 hkeys (fun q hq m hm => ?_) (fun s hs m hm => ?_)
      · have hw : q.2.Within (.object properties required additional) := .property hq .refl
        exact ihproperties q hq (names.within hw) (patterns.within hw) (hms m hm)
      · subst hs
        have hw : s.Within (.object properties required (.schema s)) := .additional .refl
        exact ihadditional s rfl (names.within hw) (patterns.within hw) (hms m hm)
    · refine faithful_of_not_hasType rulesOf_render_object hv fun h => hv ?_
      rw [Schema.Conforms] at h
      obtain ⟨ms, rfl, -⟩ := h
      rfl
  | array items ih =>
    by_cases hv : hasType v "array" = true
    · obtain ⟨vs, rfl⟩ := hasType_array_iff.1 hv
      have hvs : ∀ x ∈ vs, x.HasDistinctKeys := by
        cases keys with
        | array hvs => exact hvs
      have hw : items.Within (.array items) := .items .refl
      exact array_faithful fun x hx => ih (names.within hw) (patterns.within hw) (hvs x hx)
    · refine faithful_of_not_hasType rulesOf_render_array hv fun h => hv ?_
      rw [Schema.Conforms] at h
      obtain ⟨vs, rfl, -⟩ := h
      rfl
  | string rules =>
    intro pointer
    rw [Schema.Conforms, string_kept_iff fun text => patterns rules text .refl]
  | integer rules =>
    intro pointer
    rw [Schema.Conforms, render, rulesOf_choiceKeywords]
    exact choice_kept_iff hasType_integer_iff fun n => equal_number_iff
  | boolean rules =>
    intro pointer
    rw [Schema.Conforms, render, rulesOf_choiceKeywords]
    exact choice_kept_iff hasType_boolean_iff fun b => equal_bool_iff
  | float rules =>
    intro pointer
    rw [Schema.Conforms, render, rulesOf_choiceKeywords]
    exact choice_kept_iff hasType_number_iff fun x => equal_number_iff
  | null =>
    intro pointer
    rw [Schema.Conforms, rulesOf_render_null, violations, violations, List.append_nil,
      type_single_kept_iff, hasType_null_iff]
  | oneOf branches ih =>
    refine oneOf_faithful fun s hs => ?_
    have hw : s.Within (.oneOf branches) := .branch hs .refl
    exact ih s hs (names.within hw) (patterns.within hw) keys

/-! ## The evaluator -/

/-- An instance is accepted when the schema compiles and its rules are kept. -/
theorem evaluate_eq_ok_iff {c : Schema} {u : Unit} :
    evaluate c v = .ok u ↔ Compiles c ∧ violations "" v (rulesOf c.render) = [] := by
  unfold evaluate violationsOf Compiles
  cases hc : compile c with
  | error f => exact iff_of_false nofun fun h => nomatch h.1
  | ok rules =>
    obtain rfl : rulesOf c.render = rules := (compile_eq_ok_iff.1 hc).2
    rw [and_iff_right ⟨_, rfl⟩]
    cases hv : violations "" v (rulesOf c.render) with
    | nil => simp [Except.map, hv]
    | cons x xs => simp [Except.map, hv]

/-- A schema that compiles accepts what conforms to it. -/
theorem Compiles.accepts_iff {c : Schema} (h : Compiles c) (names : c.HasDistinctNames)
    (keys : v.HasDistinctKeys) : evaluate c v = .ok () ↔ c.Conforms v := by
  rw [evaluate_eq_ok_iff, and_iff_right h]
  exact faithful names ((compiles_iff names).1 h).2 keys ""

/-- **A text that is read is accepted exactly when it conforms** to a schema that was read and
compiles: its keys differ, as do the names of the schema. -/
theorem accepts_iff_of_read {place : Option Json} {components : Components} {p : Location}
    {node : Json} {c : Schema} {text : String} (hcomponents : componentsOf place = .ok components)
    (hc : Schema.ofJson components p node = .ok c) (hcompiles : Compiles c)
    (hv : Json.read text = .ok v) : evaluate c v = .ok () ↔ c.Conforms v := by
  have maps : c.HasMaps :=
    hasMaps_of_declaredBy (hasMaps_of_componentsOf hcomponents) (declaredBy_of_ofJson hc)
  exact hcompiles.accepts_iff maps.hasDistinctNames (Json.hasDistinctKeys_of_read hv)

/-- **An instance is accepted exactly when it conforms to the schema**, for every canonical schema
without an empty union all of whose patterns are patterns.  The names of a map or a set differ, as
do the keys of an object. -/
theorem evaluate_eq_ok_iff_conforms {c : Schema} (names : c.HasDistinctNames)
    (branches : c.HasBranches) (patterns : c.HasPatterns) (keys : v.HasDistinctKeys) :
    evaluate c v = .ok () ↔ c.Conforms v :=
  ((compiles_iff names).2 ⟨branches, patterns⟩).accepts_iff names keys

/-! A pet has an identifier, and may have a name in small letters. -/

/-- An object with an identifier, and a name in small letters or none. -/
def petRules : Schema :=
  .object [("id", .integer {}), ("name", .string { pattern := some "^[a-z]+$" })] ["id"]
    (.allowed false)

/-- A pet with both. -/
def rex : Json := .object [("id", Json.ofSigned ⟨7, by decide⟩), ("name", .string "rex")]

/-- The pet conforms. -/
theorem petRules_conforms_rex : petRules.Conforms rex := by
  have hid : (Schema.integer {}).Conforms (Json.ofSigned ⟨7, by decide⟩) := by
    rw [Schema.Conforms]
    exact ⟨.inl ⟨7, by decide, rfl⟩, by rintro _ ⟨⟩⟩
  have hname : (Schema.string { pattern := some "^[a-z]+$" }).Conforms (.string "rex") := by
    have hmatch : Pattern.Matches "^[a-z]+$" "rex" := by decide +kernel
    rw [Schema.Conforms]
    refine ⟨⟨.inl ⟨_, rfl⟩, by rintro _ ⟨⟩⟩, ?_, by rintro _ _ - ⟨⟩⟩
    rintro _ _ ⟨⟩ ⟨⟩
    exact hmatch
  rw [petRules, rex, Schema.Conforms]
  refine ⟨_, rfl, by decide, ?_, fun _ => by decide, by rintro _ ⟨⟩⟩
  refine List.forall_mem_cons.2 ⟨fun s hs => ?_, List.forall_mem_singleton.2 fun s hs => ?_⟩
  · obtain rfl : s = .integer {} := by simpa using hs
    exact hid
  · obtain rfl : s = .string { pattern := some "^[a-z]+$" } := by simpa using hs
    exact hname

/-- The pet is accepted. -/
theorem rex_accepted : evaluate petRules rex = .ok () := by
  have below {s : Schema} (hs : s.Within petRules) :
      s = petRules ∨ s = .integer {} ∨ s = .string { pattern := some "^[a-z]+$" } := by
    cases hs with
    | refl => exact .inl rfl
    | property hm h =>
      rcases List.mem_cons.1 hm with heq | hm
      · obtain ⟨rfl, rfl⟩ := Prod.mk.inj heq
        cases h with
        | refl => exact .inr (.inl rfl)
      · obtain ⟨rfl, rfl⟩ := Prod.mk.inj (List.mem_singleton.1 hm)
        cases h with
        | refl => exact .inr (.inr rfl)
  have names : petRules.HasDistinctNames := by
    intro properties required additional hw
    rcases below hw with h | h | h
    · cases h
      exact ⟨by decide, by decide⟩
    · cases h
    · cases h
  have branches : petRules.HasBranches := fun hw => nomatch below hw
  have patterns : petRules.HasPatterns := by
    intro rules text hw hp
    rcases below hw with h | h | h
    · cases h
    · cases h
    · cases h
      cases hp
      decide +kernel
  have keys : rex.HasDistinctKeys :=
    .object (by decide) (List.forall_mem_cons.2 ⟨.number, List.forall_mem_singleton.2 .string⟩)
  exact (evaluate_eq_ok_iff_conforms names branches patterns keys).2 petRules_conforms_rex

end Draft4

end ApiContract
