import ApiContract.Proofs.Json.Likeness
import ApiContract.Proofs.Schema.Distinct
import ApiContract.Schema.Rendering

/-!
# Proofs/Schema/Rendering — the document of a schema tells the schema

What is read off equal documents of two schemas (`Json.Likeness`) is the schemas: the `type` keyword
tells the form and whether null is accepted, the other keywords tell the rest, and a keyword that is
absent is one there would be nothing to say in.  **`equalBy_of_render`** says so by induction on the
schema.  Where the order of members is free, properties are to be a map (`Schema.HasMaps`).
-/

namespace ApiContract

/-! ## Equal schemas -/

section EqualBy

variable (R : Json → Json → Prop)

/-- Equal choices, the values listed being equal. -/
structure Choice.EqualBy {α : Type} (A : α → α → Prop) (rules rules' : Choice α) : Prop where
  acceptsNull : rules.acceptsNull = rules'.acceptsNull
  members : Option.Rel (List.Forall₂ A) rules.members rules'.members

/-- **Equal schemas**, numbers that are floats being equal by `R`. -/
inductive Schema.EqualBy : Schema → Schema → Prop
  | object {properties properties' : List (String × Schema)} {required : List String}
    {additional additional' : Additional Schema} (hp : Keyed.Rel EqualBy properties properties')
    (ha : Additional.Rel EqualBy additional additional') :
    EqualBy (.object properties required additional) (.object properties' required additional')
  | array {items items' : Schema} (hi : EqualBy items items') :
    EqualBy (.array items) (.array items')
  | string {rules : StringRules} : EqualBy (.string rules) (.string rules)
  | integer {rules : Choice Signed64} : EqualBy (.integer rules) (.integer rules)
  | boolean {rules : Choice Bool} : EqualBy (.boolean rules) (.boolean rules)
  | float {rules rules' : Choice Binary64}
    (h : rules.EqualBy (fun x y => R (.number (.float x)) (.number (.float y))) rules') :
    EqualBy (.float rules) (.float rules')
  | null : EqualBy .null .null
  | oneOf {branches branches' : List Schema} (hb : List.Forall₂ EqualBy branches branches') :
    EqualBy (.oneOf branches) (.oneOf branches')

end EqualBy

/-- Lists of elements that are equal one by one are equal. -/
theorem eq_of_forall₂ {α : Type} {A : α → α → Prop} {as bs : List α}
    (hA : ∀ a ∈ as, ∀ b, A a b → a = b) (h : List.Forall₂ A as bs) : as = bs := by
  induction h with
  | nil => rfl
  | cons h _ ih =>
    obtain ⟨hfirst, hrest⟩ := List.forall_mem_cons.1 hA
    rw [hfirst _ h, ih hrest]

/-- Choices of values that are equal only when they are the same are the same. -/
theorem Choice.EqualBy.eq {α : Type} {A : α → α → Prop} {rules rules' : Choice α}
    (h : rules.EqualBy A rules') (hA : ∀ a b, A a b → a = b) : rules = rules' := by
  obtain ⟨acceptsNull, members⟩ := rules
  obtain ⟨acceptsNull', members'⟩ := rules'
  obtain ⟨hnull, hmembers⟩ := h
  dsimp only at hnull hmembers
  subst hnull
  cases hmembers with
  | none => rfl
  | some h => rw [eq_of_forall₂ (fun a _ => hA a) h]

namespace Schema

/-- **Schemas that are equal by equality** are equal. -/
theorem EqualBy.eq {s s' : Schema} (h : s.EqualBy Eq s') : s = s' := by
  induction s using inductBelow generalizing s' with
  | object properties required additional ihp iha =>
    cases h with
    | object hp ha =>
      obtain rfl := hp.eq fun q hq s' => ihp q hq
      cases ha with
      | allowed => rfl
      | schema h => rw [iha _ rfl h]
  | array items ih =>
    cases h with
    | array hi => rw [ih hi]
  | float rules =>
    cases h with
    | float h =>
      have hrules := h.eq fun x y hxy => Json.Number.float.inj (Json.number.inj hxy)
      rw [hrules]
  | oneOf branches ih =>
    cases h with
    | oneOf hb => rw [eq_of_forall₂ (fun s hs s' => ih s hs) hb]
  | _ =>
    cases h
    rfl

/-! ## The keywords of a document -/

theorem renderProperties_eq_map {properties : List (String × Schema)} :
    renderProperties properties = properties.map fun q => (q.1, q.2.render) := by
  induction properties with
  | nil => rw [renderProperties]; rfl
  | cons q properties ih => rw [renderProperties, ih]; rfl

theorem renderAll_eq_map {branches : List Schema} : renderAll branches = branches.map render := by
  induction branches with
  | nil => rw [renderAll]; rfl
  | cons s branches ih => rw [renderAll, ih]; rfl

/-- The keywords of the document of a schema. -/
def keywords (s : Schema) : Members := s.render.asObject?.getD []

/-- **A rendered schema is an object** of its keywords. -/
theorem render_eq (s : Schema) : s.render = .object s.keywords := by
  cases s <;> rfl

/-- What the `type` keyword says: the name of a type, and whether null is accepted too. -/
def typeNamed : Schema → Option (String × Bool)
  | object _ _ _ => some ("object", false)
  | array _ => some ("array", false)
  | string rules => some ("string", rules.acceptsNull)
  | integer rules => some ("integer", rules.acceptsNull)
  | boolean rules => some ("boolean", rules.acceptsNull)
  | float rules => some ("number", rules.acceptsNull)
  | null => some ("null", false)
  | oneOf _ => none

theorem get?_keywords_type (s : Schema) :
    s.keywords.get? "type" = s.typeNamed.map fun t => (typeKeyword t.1 t.2).2 := by
  cases s <;> rfl

/-- No keyword comes twice. -/
theorem nodup_keywords (s : Schema) : s.keywords.keys.Nodup := by
  have choice {α : Type} {name : String} {value : α → Json} {rules : Choice α} :
      (Members.keys (choiceKeywords name value rules)).Nodup := by
    obtain ⟨acceptsNull, members⟩ := rules
    cases members with
    | none => exact (by decide : ["type"].Nodup)
    | some => exact (by decide : ["type", "enum"].Nodup)
  cases s with
  | object properties required additional =>
    cases required with
    | nil => exact (by decide : ["type", "properties", "additionalProperties"].Nodup)
    | cons => exact (by decide : ["type", "properties", "required", "additionalProperties"].Nodup)
  | array => exact (by decide : ["type", "items"].Nodup)
  | string rules =>
    obtain ⟨⟨acceptsNull, members⟩, pattern, minLength⟩ := rules
    have hkeys : (stringKeywords ⟨⟨acceptsNull, members⟩, pattern, minLength⟩).map (·.1) =
        "type" :: (if members.isSome then ["enum"] else []) ++
          (if pattern.isSome then ["pattern"] else []) ++
          if minLength.isSome then ["minLength"] else [] := by
      cases members <;> cases pattern <;> cases minLength <;> rfl
    show ((stringKeywords ⟨⟨acceptsNull, members⟩, pattern, minLength⟩).map (·.1)).Nodup
    rw [hkeys]
    split_ifs <;> decide
  | integer => exact choice
  | boolean => exact choice
  | float => exact choice
  | null => exact (by decide : ["type"].Nodup)
  | oneOf => exact (by decide : ["oneOf"].Nodup)

/-! ## What equal documents tell -/

section Likeness

variable {free : Prop} {R : Json → Json → Prop} {s s' : Schema}

/-- What stands under a keyword of both. -/
theorem field_of_render (hR : Json.Likeness free R) (h : R s.render s'.render) (key : String)
    {v v' : Json} (hv : s.keywords.get? key = some v) (hv' : s'.keywords.get? key = some v') :
    R v v' := by
  rw [render_eq, render_eq] at h
  exact hR.field h s.nodup_keywords key hv hv'

/-- What may stand under a keyword. -/
theorem optional_of_render (hR : Json.Likeness free R) (h : R s.render s'.render) (key : String)
    {α : Type} {value : α → Json} {A : α → α → Prop} {x x' : Option α}
    (hx : s.keywords.get? key = x.map value) (hx' : s'.keywords.get? key = x'.map value)
    (hA : ∀ a b, R (value a) (value b) → A a b) : Option.Rel A x x' := by
  rw [render_eq, render_eq] at h
  exact hR.optional h s.nodup_keywords key hx hx' fun a _ b _ => hA a b

/-- The value of a `type` keyword tells what it was made of. -/
theorem eq_of_typeKeyword (hR : Json.Likeness free R) {name name' : String}
    {acceptsNull acceptsNull' : Bool}
    (h : R (typeKeyword name acceptsNull).2 (typeKeyword name' acceptsNull').2) :
    (name, acceptsNull) = (name', acceptsNull') := by
  cases acceptsNull with
  | false =>
    have heq := hR.string h
    cases acceptsNull' with
    | false => rw [hR.string_eq h]
    | true => cases heq
  | true =>
    obtain ⟨vs, heq, hvs⟩ := hR.array h
    cases acceptsNull' with
    | false => cases heq
    | true =>
      obtain rfl := Json.array.inj heq
      cases hvs with
      | cons hname => rw [hR.string_eq hname]

/-- Schemas of one form. -/
inductive SameForm : Schema → Schema → Prop
  | object {properties properties' : List (String × Schema)} {required required' : List String}
    {additional additional' : Additional Schema} :
    SameForm (object properties required additional) (object properties' required' additional')
  | array {items items' : Schema} : SameForm (array items) (array items')
  | string {rules rules' : StringRules} : SameForm (string rules) (string rules')
  | integer {rules rules' : Choice Signed64} : SameForm (integer rules) (integer rules')
  | boolean {rules rules' : Choice Bool} : SameForm (boolean rules) (boolean rules')
  | float {rules rules' : Choice Binary64} : SameForm (float rules) (float rules')
  | null : SameForm null null
  | oneOf {branches branches' : List Schema} : SameForm (oneOf branches) (oneOf branches')

/-- Schemas of equal documents have the same type, and accept null alike. -/
theorem typeNamed_eq_of_render (hR : Json.Likeness free R) (h : R s.render s'.render) :
    s.typeNamed = s'.typeNamed := by
  have hrel := optional_of_render hR h "type" s.get?_keywords_type s'.get?_keywords_type
    fun _ _ => eq_of_typeKeyword hR
  exact eq_of_optionRel (fun _ _ => id) hrel

/-- **The `type` keyword tells the form** of a schema. -/
theorem sameForm_of_render (hR : Json.Likeness free R) (h : R s.render s'.render) :
    s.SameForm s' := by
  have htype := typeNamed_eq_of_render hR h
  cases s <;> cases s' <;> first | constructor | simp [typeNamed] at htype

/-- What an object requires is told, by what it lists or by its silence. -/
theorem required_eq_of_render (hR : Json.Likeness free R)
    {properties properties' : List (String × Schema)} {required required' : List String}
    {additional additional' : Additional Schema}
    (h : R (object properties required additional).render
      (object properties' required' additional').render) :
    required = required' := by
  have keyword {properties : List (String × Schema)} {required : List String}
      {additional : Additional Schema} :
      (object properties required additional).keywords.get? "required" =
        (if required = [] then none else some required).map fun names =>
          .array (names.map .string) := by
    cases required <;> rfl
  have hrel := optional_of_render hR h "required" keyword keyword
    fun _ _ h => hR.list h fun _ _ _ _ => hR.string_eq
  split_ifs at hrel with hnone hnone' hnone'
  · rw [hnone, hnone']
  · cases hrel
  · cases hrel
  · cases hrel with
    | some h => exact eq_of_forall₂ (fun _ _ _ => id) h

/-- A choice is told by the keywords of its type and of its values. -/
theorem choice_of_render (hR : Json.Likeness free R) (h : R s.render s'.render) {α : Type}
    {name : String} {value : α → Json} {A : α → α → Prop} {rules rules' : Choice α}
    (htype : s.typeNamed = some (name, rules.acceptsNull))
    (htype' : s'.typeNamed = some (name, rules'.acceptsNull))
    (henum : s.keywords.get? "enum" = rules.members.map fun members => .array (members.map value))
    (henum' : s'.keywords.get? "enum" =
      rules'.members.map fun members => .array (members.map value))
    (hA : ∀ a b, R (value a) (value b) → A a b) :
    rules.EqualBy A rules' := by
  constructor
  · have hform := typeNamed_eq_of_render hR h
    rw [htype, htype'] at hform
    exact (Prod.mk.inj (Option.some.inj hform)).2
  · exact optional_of_render hR h "enum" henum henum' fun _ _ h => hR.list h fun a _ b _ => hA a b

/-- The values of a choice stand under `enum`, if it lists any. -/
theorem get?_choiceKeywords_enum {α : Type} {name : String} {value : α → Json} {rules : Choice α} :
    Members.get? (choiceKeywords name value rules) "enum" =
      rules.members.map fun members => .array (members.map value) := by
  obtain ⟨acceptsNull, members⟩ := rules
  cases members <;> rfl

/-- A string schema is told by the keywords for its values, its pattern and its length. -/
theorem string_eq_of_render (hR : Json.Likeness free R) {rules rules' : StringRules}
    (h : R (string rules).render (string rules').render) : rules = rules' := by
  have henum (rules : StringRules) : (string rules).keywords.get? "enum" =
      rules.members.map fun members => .array (members.map .string) := by
    obtain ⟨⟨acceptsNull, members⟩, pattern, minLength⟩ := rules
    cases members <;> cases pattern <;> cases minLength <;> rfl
  have hpattern (rules : StringRules) :
      (string rules).keywords.get? "pattern" = rules.pattern.map .string := by
    obtain ⟨⟨acceptsNull, members⟩, pattern, minLength⟩ := rules
    cases members <;> cases pattern <;> cases minLength <;> rfl
  have hlength (rules : StringRules) :
      (string rules).keywords.get? "minLength" = rules.minLength.map .ofUnsigned := by
    obtain ⟨⟨acceptsNull, members⟩, pattern, minLength⟩ := rules
    cases members <;> cases pattern <;> cases minLength <;> rfl
  have hchoice := choice_of_render hR h rfl rfl (henum rules) (henum rules')
    fun _ _ => hR.string_eq
  have hpattern := optional_of_render hR h "pattern" (hpattern rules) (hpattern rules')
    fun _ _ => hR.string_eq
  have hlength := optional_of_render hR h "minLength" (hlength rules) (hlength rules')
    fun _ _ => hR.unsigned_eq
  obtain ⟨choice, pattern, minLength⟩ := rules
  obtain ⟨choice', pattern', minLength'⟩ := rules'
  obtain rfl : choice = choice' := hchoice.eq fun _ _ => id
  obtain rfl : pattern = pattern' := eq_of_optionRel (fun _ _ => id) hpattern
  obtain rfl : minLength = minLength' := eq_of_optionRel (fun _ _ => id) hlength
  rfl

/-- What stands beside the properties is told, a flag being no schema. -/
theorem additional_of_render (hR : Json.Likeness free R)
    {additional additional' : Additional Schema} {A : Schema → Schema → Prop}
    (h : R (renderAdditional additional) (renderAdditional additional'))
    (hA : ∀ s s', additional = .schema s → additional' = .schema s' → R s.render s'.render →
      A s s') :
    additional.Rel A additional' := by
  have hschema (s : Schema) : renderAdditional (.schema s) = .object s.keywords := s.render_eq
  cases additional with
  | allowed flag =>
    have heq := hR.bool h
    cases additional' with
    | allowed flag' =>
      obtain rfl := hR.bool_eq h
      exact .allowed
    | schema s' =>
      rw [hschema] at heq
      cases heq
  | schema s =>
    cases additional' with
    | allowed flag' =>
      rw [hschema] at h
      obtain ⟨_, heq⟩ := hR.object h
      cases heq
    | schema s' => exact .schema (hA s s' rfl rfl h)

/-- **The document of a schema tells the schema.**  Where the order of members is free, properties
have to be in an order of their own. -/
theorem equalBy_of_render (hR : Json.Likeness free R) (hs : free → s.HasMaps)
    (hs' : free → s'.HasMaps) (h : R s.render s'.render) : s.EqualBy R s' := by
  have below {r s : Schema} (hs : free → s.HasMaps) (hr : r.Within s) : free → r.HasMaps :=
    fun hfree => (hs hfree).within hr
  induction s using inductBelow generalizing s' with
  | object properties required additional ihp iha =>
    cases sameForm_of_render hR h with
    | @object _ properties' _ _ _ additional' =>
      obtain rfl := required_eq_of_render hR h
      have hproperties :
          R (.object (renderProperties properties)) (.object (renderProperties properties')) :=
        field_of_render hR h "properties" rfl rfl
      -- the last keyword, behind `required` where that is there
      have hadditional : R (renderAdditional additional) (renderAdditional additional') :=
        field_of_render hR h "additionalProperties"
          (by cases required <;> rfl) (by cases required <;> rfl)
      rw [renderProperties_eq_map, renderProperties_eq_map] at hproperties
      have ascending {properties : List (String × Schema)} {additional : Additional Schema}
          (hs : free → (object properties required additional).HasMaps) :
          free → Keyed.Ascending properties :=
        fun hfree => (hs hfree _ _ _ .refl).1
      refine .object ?_ (additional_of_render hR hadditional fun r r' hr hr' => ?_)
      · refine hR.map (fun _ _ => id) (ascending hs) (ascending hs') hproperties ?_
        intro q hq q' hq'
        exact ihp q hq (below hs (.property hq .refl)) (below hs' (.property hq' .refl))
      · subst hr hr'
        exact iha r rfl (below hs (.additional .refl)) (below hs' (.additional .refl))
  | array items ih =>
    cases sameForm_of_render hR h with
    | array =>
      have hitems := field_of_render hR h "items" rfl rfl
      exact .array (ih (below hs (.items .refl)) (below hs' (.items .refl)) hitems)
  | string rules =>
    cases sameForm_of_render hR h with
    | string =>
      obtain rfl := string_eq_of_render hR h
      exact .string
  | integer rules =>
    cases sameForm_of_render hR h with
    | integer =>
      have hchoice := choice_of_render hR h rfl rfl get?_choiceKeywords_enum
        get?_choiceKeywords_enum fun _ _ => hR.signed_eq
      obtain rfl := hchoice.eq fun _ _ => id
      exact .integer
  | boolean rules =>
    cases sameForm_of_render hR h with
    | boolean =>
      have hchoice := choice_of_render hR h rfl rfl get?_choiceKeywords_enum
        get?_choiceKeywords_enum fun _ _ => hR.bool_eq
      obtain rfl := hchoice.eq fun _ _ => id
      exact .boolean
  | float rules =>
    cases sameForm_of_render hR h with
    | float =>
      exact .float (choice_of_render hR h rfl rfl get?_choiceKeywords_enum
        get?_choiceKeywords_enum fun _ _ => id)
  | null =>
    cases sameForm_of_render hR h with
    | null => exact .null
  | oneOf branches ih =>
    cases sameForm_of_render hR h with
    | @oneOf _ branches' =>
      have hbranches : R (.array (renderAll branches)) (.array (renderAll branches')) :=
        field_of_render hR h "oneOf" rfl rfl
      rw [renderAll_eq_map, renderAll_eq_map] at hbranches
      refine .oneOf (hR.list hbranches fun b hb b' hb' => ?_)
      exact ih b hb (below hs (.branch hb .refl)) (below hs' (.branch hb' .refl))

end Likeness

end Schema

end ApiContract
