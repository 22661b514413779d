import ApiContract.Draft4.Evaluator
import ApiContract.Proofs.Draft4.Rule
import ApiContract.Proofs.Schema.Conformance
import Mathlib.Data.List.Dedup

/-!
# Proofs/Draft4/Metaschema — which canonical schemas compile

**`compiles_iff`**: a canonical schema, the names in whose maps and sets differ, compiles exactly
when no union in it is empty and every pattern in it is a pattern.  There is one lemma for each
form, which says what compiling asks of the schemas below; the theorem goes along `Schema.Within`.
-/

namespace ApiContract.Draft4

open Schema

/-! ## Documents without a fault -/

/-- What holds of the one element there may be. -/
theorem forall_mem_toList_map_iff {α β : Type} {o : Option α} {f : α → β} {P : β → Prop} :
    (∀ b ∈ (o.map f).toList, P b) ↔ ∀ a, o = some a → P (f a) := by
  cases o <;> simp

/-- No fault stands under a keyword when each value that it has is without one. -/
theorem lookup_keywordFaults_eq_none_iff {ms : Members} {keyword : String} :
    (keywordFaults ms).lookup keyword = none ↔
      ∀ v, (keyword, v) ∈ ms → keywordFault? keyword v = none := by
  induction ms with
  | nil => exact iff_of_true rfl nofun
  | cons m ms ih =>
    obtain ⟨k, w⟩ := m
    show (((keywordFault? k w).map fun f => (k, f)).toList ++ keywordFaults ms).lookup keyword =
      none ↔ _
    by_cases hk : keyword = k
    · subst hk
      cases hw : keywordFault? keyword w with
      | none => simpa [hw] using ih
      | some f => simp [hw]
    · cases keywordFault? k w <;> simp [hk, beq_false_of_ne hk, ih, List.lookup_cons]

/-- An object has no fault when none of its keywords has. -/
theorem fault?_object_eq_none_iff {ms : Members} : fault? (.object ms) = none ↔
    ∀ m ∈ ms, m.1 ∈ keywordOrder → keywordFault? m.1 m.2 = none := by
  show keywordOrder.findSome? (fun keyword => (keywordFaults ms).lookup keyword) = none ↔ _
  simp only [List.findSome?_eq_none_iff, lookup_keywordFaults_eq_none_iff]
  exact ⟨fun h m hm hk => h m.1 hk m.2 hm, fun h keyword hk v hv => h (keyword, v) hv hk⟩

/-- Schemas in a list have no fault when each of them has none. -/
theorem firstFault?_eq_none_iff {vs : List Json} :
    firstFault? vs = none ↔ ∀ v ∈ vs, fault? v = none := by
  induction vs with
  | nil => exact iff_of_true rfl nofun
  | cons v vs ih =>
    show (fault? v).or (firstFault? vs) = none ↔ _
    rw [Option.or_eq_none_iff, ih, List.forall_mem_cons]

/-- Schemas under names have no fault when each of them has none. -/
theorem firstMemberFault?_eq_none_iff {ms : Members} :
    firstMemberFault? ms = none ↔ ∀ m ∈ ms, fault? m.2 = none := by
  induction ms with
  | nil => exact iff_of_true rfl nofun
  | cons m ms ih =>
    show (fault? m.2).or (firstMemberFault? ms) = none ↔ _
    rw [Option.or_eq_none_iff, ih, List.forall_mem_cons]

/-! ## The keywords of a rendered schema -/

/-- A keyword that holds no schemas is checked by its value alone. -/
theorem keywordFault?_plain {keyword : String} {v : Json}
    (h : keyword ∉ ["properties", "additionalProperties", "items", "oneOf"]) :
    keywordFault? keyword v = plainFault? keyword v := by
  simp only [List.mem_cons, List.not_mem_nil, or_false, not_or] at h
  obtain ⟨h₁, h₂, h₃, h₄⟩ := h
  cases v <;> simp [keywordFault?, h₁, h₂, h₃, h₄]

/-- A list of names is read back as the names. -/
theorem stringItems?_names {names : List String} :
    stringItems? (.array (names.map .string)) = some names := by
  show (names.map Json.string).mapM Json.asString? = some names
  rw [mapM_eq_some_iff, List.forall₂_map_left_iff, List.forall₂_same]
  exact fun _ _ => rfl

/-- Names that differ are not shortened. -/
theorem eraseDups_eq_self {names : List String} (h : names.Nodup) : names.eraseDups = names := by
  induction names with
  | nil => rfl
  | cons name names ih =>
    obtain ⟨hname, hnames⟩ := List.nodup_cons.1 h
    have hfilter : names.filter (fun b => !b == name) = names :=
      List.filter_eq_self.2 fun b hb => by simp [ne_of_mem_of_not_mem hb hname]
    rw [List.eraseDups_cons, hfilter, ih hnames]

/-- Some names, each once, are a list of names. -/
theorem isNameList_names {names : List String} (hn : names ≠ []) (hd : names.Nodup) :
    isNameList (.array (names.map .string)) = true := by
  unfold isNameList
  simp [stringItems?_names, hn, eraseDups_eq_self hd]

/-- The required names are a list of names, each once, and there are some. -/
theorem keywordFault?_required {names : List String} (hn : names ≠ []) (hd : names.Nodup) :
    keywordFault? "required" (.array (names.map .string)) = none := by
  rw [keywordFault?_plain (by decide)]
  exact if_pos (isNameList_names hn hd)

/-- The name of a type, or that and null, is the value of a `type` keyword. -/
theorem keywordFault?_typeKeyword {name : String} {acceptsNull : Bool} (h : name ∈ typeNames)
    (hn : name ≠ "null") : keywordFault? "type" (typeKeyword name acceptsNull).2 = none := by
  have hvalue : isTypeValue (typeKeyword name acceptsNull).2 = true := by
    cases acceptsNull with
    | false => exact List.contains_iff_mem.2 h
    | true =>
      have hlist : isNameList (.array ([name, "null"].map .string)) = true :=
        isNameList_names (by simp) (by simpa)
      have hitems : stringItems? (.array ([name, "null"].map .string)) = some [name, "null"] :=
        stringItems?_names
      have hnull : "null" ∈ typeNames := by decide
      show (isNameList (.array ([name, "null"].map .string)) &&
          ((stringItems? (.array ([name, "null"].map .string))).getD []).all typeNames.contains) =
        true
      rw [hlist, hitems]
      simp [h, hnull]
  rw [keywordFault?_plain (by decide)]
  exact if_pos hvalue

/-- Any list of values may be listed. -/
theorem keywordFault?_enum {values : List Json} : keywordFault? "enum" (.array values) = none := by
  rw [keywordFault?_plain (by decide)]
  rfl

/-- A pattern is without a fault when it can be respelled for the engine. -/
theorem keywordFault?_pattern_eq_none_iff {text : String} :
    keywordFault? "pattern" (.string text) = none ↔ (Pattern.respell? text).isSome := by
  rw [keywordFault?_plain (by decide)]
  show (if (Pattern.respell? text).isSome then none
    else some (SchemaFault.badPattern text)) = none ↔ _
  split_ifs with htext
  · exact iff_of_true rfl htext
  · exact iff_of_false nofun htext

/-- A least length is a whole number that is not negative. -/
theorem keywordFault?_minLength {n : Unsigned64} :
    keywordFault? "minLength" (Json.ofUnsigned n) = none := by
  have hn : (Json.ofUnsigned n).asUnsigned? = some n := Json.asUnsigned?_eq_some_iff.2 rfl
  rw [keywordFault?_plain (by decide)]
  show (if (Json.ofUnsigned n).asUnsigned?.isSome then none
    else some (SchemaFault.malformed "minLength")) = none
  rw [hn]
  rfl

/-- Properties have no fault when the schema of none has one. -/
theorem keywordFault?_properties {properties : List (String × Schema)} :
    keywordFault? "properties" (.object (renderProperties properties)) = none ↔
      ∀ q ∈ properties, fault? q.2.render = none := by
  show firstMemberFault? (renderProperties properties) = none ↔ _
  rw [firstMemberFault?_eq_none_iff, renderProperties_eq_map, List.forall_mem_map]

/-- The schema of the items is checked as a schema. -/
theorem keywordFault?_items {s : Schema} :
    keywordFault? "items" s.render = none ↔ fault? s.render = none := by
  rw [render_eq]
  exact Option.map_eq_none_iff

/-- What stands beside the properties is a flag, or is checked as a schema. -/
theorem keywordFault?_additionalProperties {additional : Additional Schema} :
    keywordFault? "additionalProperties" (renderAdditional additional) = none ↔
      ∀ s, additional = .schema s → fault? s.render = none := by
  cases additional with
  | allowed flag => exact iff_of_true rfl nofun
  | schema s =>
    simp only [Additional.schema.injEq, forall_eq', renderAdditional, render_eq s]
    exact Option.map_eq_none_iff

/-- **A union has no fault** when it has a branch, and no branch has one. -/
theorem keywordFault?_oneOf {branches : List Schema} :
    keywordFault? "oneOf" (.array (renderAll branches)) = none ↔
      branches ≠ [] ∧ ∀ s ∈ branches, fault? s.render = none := by
  rw [renderAll_eq_map]
  cases branches with
  | nil => exact iff_of_false nofun fun h => h.1 rfl
  | cons s branches =>
    show firstFault? ((s :: branches).map render) = none ↔ _
    rw [firstFault?_eq_none_iff, List.forall_mem_map, and_iff_right (List.cons_ne_nil _ _)]

/-! ## Rules without a text that is no pattern -/

/-- Rules are free of texts that are no patterns when each of them is. -/
theorem firstBadPattern?_eq_none_iff {rules : List Rule} :
    firstBadPattern? rules = none ↔ ∀ rule ∈ rules, rule.badPattern? = none := by
  induction rules with
  | nil => exact iff_of_true rfl nofun
  | cons rule rules ih =>
    show (rule.badPattern?).or (firstBadPattern? rules) = none ↔ _
    rw [Option.or_eq_none_iff, ih, List.forall_mem_cons]

/-- So are the rules under names when those under each name are. -/
theorem badDeclaredPattern?_eq_none_iff {declared : List (String × List Rule)} :
    badDeclaredPattern? declared = none ↔ ∀ d ∈ declared, firstBadPattern? d.2 = none := by
  induction declared with
  | nil => exact iff_of_true rfl nofun
  | cons d declared ih =>
    show (firstBadPattern? d.2).or (badDeclaredPattern? declared) = none ↔ _
    rw [Option.or_eq_none_iff, ih, List.forall_mem_cons]

/-- So are the rules of branches when those of each branch are. -/
theorem badBranchPattern?_eq_none_iff {branches : List (List Rule)} :
    badBranchPattern? branches = none ↔ ∀ rules ∈ branches, firstBadPattern? rules = none := by
  induction branches with
  | nil => exact iff_of_true rfl nofun
  | cons rules branches ih =>
    show (firstBadPattern? rules).or (badBranchPattern? branches) = none ↔ _
    rw [Option.or_eq_none_iff, ih, List.forall_mem_cons]

/-! ## Schemas that compile -/

/-- **A canonical schema that compiles**: its document is a schema of the draft, and its patterns
are patterns. -/
def Compiles (s : Schema) : Prop := ∃ rules, compile s = .ok rules

/-- Compiling checks the document, then the patterns, and yields the rules of the document. -/
theorem compile_eq_ok_iff {s : Schema} {rules : List Rule} :
    compile s = .ok rules ↔ (fault? s.render = none ∧ firstBadPattern? (rulesOf s.render) = none) ∧
      rulesOf s.render = rules := by
  unfold compile
  dsimp only
  split
  next f hf =>
    refine iff_of_false nofun fun h => ?_
    rw [h.1.1, h.1.2] at hf
    cases hf
  next hf =>
    rw [Option.or_eq_none_iff, Option.map_eq_none_iff] at hf
    rw [Except.ok.injEq, and_iff_right hf]

/-- A schema compiles when its document has no fault and its rules no text that is no pattern. -/
theorem compiles_iff_of_render {s : Schema} :
    Compiles s ↔ fault? s.render = none ∧ firstBadPattern? (rulesOf s.render) = none := by
  unfold Compiles
  simp only [compile_eq_ok_iff, exists_and_left, exists_eq', and_true]

/-- The document of an object has no fault when those of its properties and of the schema beside
them have none. -/
theorem fault?_render_object {properties : List (String × Schema)} {required : List String}
    {additional : Additional Schema} (hd : required.Nodup) :
    fault? (Schema.object properties required additional).render = none ↔
      (∀ q ∈ properties, fault? q.2.render = none) ∧
        ∀ s, additional = .schema s → fault? s.render = none := by
  have htype : keywordFault? "type" (.string "object") = none := rfl
  have hrequired : ∀ m ∈ requiredKeyword required, keywordFault? m.1 m.2 = none := by
    unfold requiredKeyword
    split_ifs with hn
    · exact fun _ hm => nomatch hm
    · exact List.forall_mem_singleton.2 (keywordFault?_required hn hd)
  rw [render, fault?_object_eq_none_iff, ← keywordFault?_properties,
    ← keywordFault?_additionalProperties]
  simp only [List.forall_mem_append, List.forall_mem_cons, List.not_mem_nil, false_imp_iff,
    forall_const, and_true, htype]
  constructor
  · rintro ⟨⟨⟨-, hproperties⟩, -⟩, hadditional⟩
    exact ⟨hproperties (by decide), hadditional (by decide)⟩
  · rintro ⟨hproperties, hadditional⟩
    exact ⟨⟨⟨fun _ => trivial, fun _ => hproperties⟩, fun m hm _ => hrequired m hm⟩,
      fun _ => hadditional⟩

/-- The patterns of an object are those of its properties and of the schema beside them. -/
theorem firstBadPattern?_render_object {properties : List (String × Schema)}
    {required : List String} {additional : Additional Schema} :
    firstBadPattern? (rulesOf (Schema.object properties required additional).render) = none ↔
      (∀ q ∈ properties, firstBadPattern? (rulesOf q.2.render) = none) ∧
        ∀ s, additional = .schema s → firstBadPattern? (rulesOf s.render) = none := by
  have hrequired : ∀ rule ∈ requiredRules required, rule.badPattern? = none := by
    unfold requiredRules
    split_ifs
    · exact fun _ hm => nomatch hm
    · exact List.forall_mem_singleton.2 rfl
  have hproperties :
      badDeclaredPattern? (properties.map fun q => (q.1, rulesOf q.2.render)) = none ↔
        ∀ q ∈ properties, firstBadPattern? (rulesOf q.2.render) = none := by
    rw [badDeclaredPattern?_eq_none_iff, List.forall_mem_map]
  rw [rulesOf_render_object, firstBadPattern?_eq_none_iff, List.forall_mem_cons,
    Rule.badPattern?, ← hproperties]
  -- what is said of other members adds patterns only where it is a schema
  cases additional with
  | allowed flag =>
    cases flag with
    | false =>
      rw [memberRules, List.forall_mem_append, and_iff_right hrequired, List.forall_mem_singleton,
        Rule.badPattern?]
      simp
    | true =>
      rw [memberRules, List.forall_mem_cons, and_iff_left hrequired, Rule.badPattern?]
      simp
  | schema s =>
    rw [memberRules, List.forall_mem_append, and_iff_right hrequired, List.forall_mem_singleton,
      Rule.badPattern?]
    simp

/-- **An object compiles** when its properties and the schema beside them do. -/
theorem compiles_object_iff {properties : List (String × Schema)} {required : List String}
    {additional : Additional Schema} (hd : required.Nodup) :
    Compiles (.object properties required additional) ↔
      (∀ q ∈ properties, Compiles q.2) ∧ ∀ s, additional = .schema s → Compiles s := by
  simp only [compiles_iff_of_render, fault?_render_object hd,
    firstBadPattern?_render_object, forall₂_and]
  exact and_and_and_comm

/-- The document of an array has no fault when that of its items has none. -/
theorem fault?_render_array {items : Schema} :
    fault? (Schema.array items).render = none ↔ fault? items.render = none := by
  have htype : keywordFault? "type" (.string "array") = none := rfl
  rw [render, fault?_object_eq_none_iff, ← keywordFault?_items]
  simp only [List.forall_mem_cons, List.not_mem_nil, false_imp_iff, forall_const, and_true, htype]
  exact ⟨fun h => h.2 (by decide), fun h => ⟨fun _ => trivial, fun _ => h⟩⟩

/-- **An array compiles** when its items do. -/
theorem compiles_array_iff {items : Schema} : Compiles (.array items) ↔ Compiles items := by
  rw [compiles_iff_of_render, compiles_iff_of_render, fault?_render_array, rulesOf_render_array]
  simp [firstBadPattern?, Rule.badPattern?]

/-- The document of a union has no fault when there is a branch, and no document of one has a fault.
-/
theorem fault?_render_oneOf {branches : List Schema} :
    fault? (Schema.oneOf branches).render = none ↔
      branches ≠ [] ∧ ∀ s ∈ branches, fault? s.render = none := by
  rw [render, fault?_object_eq_none_iff, ← keywordFault?_oneOf, List.forall_mem_singleton]
  have hkeyword : "oneOf" ∈ keywordOrder := by decide
  exact ⟨fun h => h hkeyword, fun h _ => h⟩

/-- **A union compiles** when it has a branch and each branch does. -/
theorem compiles_oneOf_iff {branches : List Schema} :
    Compiles (.oneOf branches) ↔ branches ≠ [] ∧ ∀ s ∈ branches, Compiles s := by
  have hpatterns : firstBadPattern? (rulesOf (Schema.oneOf branches).render) = none ↔
      ∀ s ∈ branches, firstBadPattern? (rulesOf s.render) = none := by
    rw [rulesOf_render_oneOf, firstBadPattern?_eq_none_iff, List.forall_mem_singleton,
      Rule.badPattern?, badBranchPattern?_eq_none_iff, List.forall_mem_map]
  simp only [compiles_iff_of_render, fault?_render_oneOf, hpatterns, forall₂_and, and_assoc]

/-- The schema of null compiles. -/
theorem compiles_null : Compiles .null := by
  rw [compiles_iff_of_render, rulesOf_render_null]
  exact ⟨rfl, rfl⟩

section Primitive

variable {α : Type} {name : String} {value : α → Json}

theorem keywordFault?_enumKeyword {members : Option (List α)} :
    ∀ m ∈ enumKeyword value members, keywordFault? m.1 m.2 = none := by
  cases members with
  | none => exact fun _ hm => nomatch hm
  | some members => exact List.forall_mem_singleton.2 keywordFault?_enum

theorem badPattern?_enumRules {members : Option (List α)} :
    ∀ rule ∈ enumRules value members, rule.badPattern? = none := by
  cases members with
  | none => exact fun _ hm => nomatch hm
  | some members => exact List.forall_mem_singleton.2 rfl

/-- A primitive schema other than a string compiles. -/
theorem compiles_of_choiceKeywords {s : Schema} {rules : Choice α} (h : name ∈ typeNames)
    (hn : name ≠ "null") (hs : s.render = .object (choiceKeywords name value rules)) :
    Compiles s := by
  rw [compiles_iff_of_render, hs, fault?_object_eq_none_iff, rulesOf_choiceKeywords,
    firstBadPattern?_eq_none_iff, choiceKeywords, List.forall_mem_cons, List.forall_mem_cons]
  exact ⟨⟨fun _ => keywordFault?_typeKeyword h hn, fun m hm _ => keywordFault?_enumKeyword m hm⟩,
    rfl, badPattern?_enumRules⟩

end Primitive

theorem compiles_integer {rules : Choice Signed64} : Compiles (.integer rules) :=
  compiles_of_choiceKeywords (by decide) (by decide) rfl

theorem compiles_boolean {rules : Choice Bool} : Compiles (.boolean rules) :=
  compiles_of_choiceKeywords (by decide) (by decide) rfl

theorem compiles_float {rules : Choice Binary64} : Compiles (.float rules) :=
  compiles_of_choiceKeywords (by decide) (by decide) rfl

/-- A text that is a pattern can be respelled, which is all the metaschema asks of it. -/
theorem isSome_respell? {text : String} (h : (Pattern.ofText? text).isSome) :
    (Pattern.respell? text).isSome := by
  obtain ⟨p, hp⟩ := Option.isSome_iff_exists.1 h
  obtain ⟨spelled, hspelled, -⟩ := Option.bind_eq_some_iff.1 hp
  exact Option.isSome_iff_exists.2 ⟨spelled, hspelled⟩

theorem badPattern?_pattern_eq_none_iff {text : String} {p : Option Pattern} :
    (Rule.pattern text p).badPattern? = none ↔ p.isSome := by
  cases p with
  | none => exact iff_of_false nofun Bool.false_ne_true
  | some p => exact iff_of_true rfl rfl

/-- The document of a string has no fault when its pattern can be respelled. -/
theorem fault?_render_string {rules : StringRules} :
    fault? (Schema.string rules).render = none ↔
      ∀ text, rules.pattern = some text → (Pattern.respell? text).isSome := by
  have htype : keywordFault? "type" (typeKeyword "string" rules.acceptsNull).2 = none :=
    keywordFault?_typeKeyword (by decide) (by decide)
  rw [render, fault?_object_eq_none_iff, stringKeywords, choiceKeywords, List.forall_mem_append,
    List.forall_mem_append, List.forall_mem_cons, forall_mem_toList_map_iff,
    forall_mem_toList_map_iff]
  simp only [← keywordFault?_pattern_eq_none_iff]
  constructor
  · rintro ⟨⟨-, hpattern⟩, -⟩ text htext
    exact hpattern text htext (by decide)
  · intro hpattern
    exact ⟨⟨⟨fun _ => htype, fun m hm _ => keywordFault?_enumKeyword m hm⟩,
      fun text htext _ => hpattern text htext⟩, fun _ _ _ => keywordFault?_minLength⟩

/-- The one pattern of a string is its own. -/
theorem firstBadPattern?_render_string {rules : StringRules} :
    firstBadPattern? (rulesOf (Schema.string rules).render) = none ↔
      ∀ text, rules.pattern = some text → (Pattern.ofText? text).isSome := by
  rw [rulesOf_render_string, firstBadPattern?_eq_none_iff, List.forall_mem_cons,
    List.forall_mem_append, List.forall_mem_append, patternRules, minLengthRules,
    forall_mem_toList_map_iff, forall_mem_toList_map_iff]
  constructor
  · rintro ⟨-, ⟨-, hpattern⟩, -⟩ text htext
    exact badPattern?_pattern_eq_none_iff.1 (hpattern text htext)
  · intro hpattern
    exact ⟨rfl, ⟨badPattern?_enumRules,
      fun text htext => badPattern?_pattern_eq_none_iff.2 (hpattern text htext)⟩, fun _ _ => rfl⟩

/-- A string schema compiles when its pattern is a pattern. -/
theorem compiles_string_iff {rules : StringRules} :
    Compiles (.string rules) ↔
      ∀ text, rules.pattern = some text → (Pattern.ofText? text).isSome := by
  rw [compiles_iff_of_render, fault?_render_string, firstBadPattern?_render_string]
  exact and_iff_right_of_imp fun h text htext => isSome_respell? (h text htext)

/-! ## Every depth -/

/-- What stands below a schema whose document has no fault has none. -/
theorem fault?_within {s c : Schema} (names : c.HasDistinctNames) (h : fault? c.render = none)
    (hs : s.Within c) : fault? s.render = none := by
  induction hs with
  | refl => exact h
  | property hm _ ih =>
    exact ih (names.within (.property hm .refl))
      (((fault?_render_object (names _ _ _ .refl).2).1 h).1 _ hm)
  | additional _ ih =>
    exact ih (names.within (.additional .refl))
      (((fault?_render_object (names _ _ _ .refl).2).1 h).2 _ rfl)
  | items _ ih => exact ih (names.within (.items .refl)) (fault?_render_array.1 h)
  | branch hm _ ih => exact ih (names.within (.branch hm .refl)) ((fault?_render_oneOf.1 h).2 _ hm)

/-- What stands below a schema that compiles compiles. -/
theorem Compiles.within {s c : Schema} (names : c.HasDistinctNames) (h : Compiles c)
    (hs : s.Within c) : Compiles s := by
  induction hs with
  | refl => exact h
  | property hm _ ih =>
    exact ih (names.within (.property hm .refl))
      (((compiles_object_iff (names _ _ _ .refl).2).1 h).1 _ hm)
  | additional _ ih =>
    exact ih (names.within (.additional .refl))
      (((compiles_object_iff (names _ _ _ .refl).2).1 h).2 _ rfl)
  | items _ ih => exact ih (names.within (.items .refl)) (compiles_array_iff.1 h)
  | branch hm _ ih => exact ih (names.within (.branch hm .refl)) ((compiles_oneOf_iff.1 h).2 _ hm)

/-- A schema compiles that has branches in its unions and patterns for patterns. -/
theorem compiles_of_hasPatterns {c : Schema} (names : c.HasDistinctNames) (branches : c.HasBranches)
    (patterns : c.HasPatterns) : Compiles c := by
  have below {s : Schema} (hs : s.Within c) : s.HasDistinctNames ∧ s.HasBranches ∧ s.HasPatterns :=
    ⟨names.within hs, branches.within hs, patterns.within hs⟩
  clear names branches patterns
  induction c using Schema.inductBelow with
  | object properties required additional ihproperties ihadditional =>
    have hd : required.Nodup := ((below .refl).1 _ _ _ .refl).2
    refine (compiles_object_iff hd).2 ⟨fun q hq => ?_, ?_⟩
    · exact ihproperties q hq fun hs => below (.property hq hs)
    · rintro s rfl
      exact ihadditional s rfl fun hs => below (.additional hs)
  | array items ih => exact compiles_array_iff.2 (ih fun hs => below (.items hs))
  | string rules => exact compiles_string_iff.2 fun text => (below .refl).2.2 rules text .refl
  | integer rules => exact compiles_integer
  | boolean rules => exact compiles_boolean
  | float rules => exact compiles_float
  | null => exact compiles_null
  | oneOf branches ih =>
    refine compiles_oneOf_iff.2 ⟨?_, fun s hs => ih s hs fun hw => below (.branch hs hw)⟩
    rintro rfl
    exact (below .refl).2.1 .refl

/-- **A schema compiles** exactly when each union in it has a branch, and each pattern in it is
one. -/
theorem compiles_iff {c : Schema} (names : c.HasDistinctNames) :
    Compiles c ↔ c.HasBranches ∧ c.HasPatterns := by
  constructor
  · intro h
    exact ⟨fun hb => (compiles_oneOf_iff.1 (h.within names hb)).1 rfl,
      fun rules text hr => compiles_string_iff.1 (h.within names hr) text⟩
  · rintro ⟨branches, patterns⟩
    exact compiles_of_hasPatterns names branches patterns

/-- **The document of a schema has no fault** exactly when each union in the schema has a branch,
where every pattern is one. -/
theorem fault?_render_eq_none_iff {c : Schema} (names : c.HasDistinctNames)
    (patterns : c.HasPatterns) : fault? c.render = none ↔ c.HasBranches := by
  constructor
  · intro h hb
    exact (fault?_render_oneOf.1 (fault?_within names h hb)).1 rfl
  · intro branches
    exact (compiles_iff_of_render.1 (compiles_of_hasPatterns names branches patterns)).1

end ApiContract.Draft4
