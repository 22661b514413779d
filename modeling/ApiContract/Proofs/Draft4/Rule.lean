import ApiContract.Draft4.Rule
import ApiContract.Proofs.Schema.Form
import ApiContract.Proofs.Schema.Rendering

/-!
# Proofs/Draft4/Rule — the rules of a rendered schema

The document of a canonical schema sets one rule for each of its keywords, in order; the rule of the
members of an object stands where its document says it does.  There is one lemma for each form of a
schema.
-/

namespace ApiContract.Draft4

open Schema

/-- The rules of the declared members of a document. -/
def declaredRules (ms : Members) : List (String × List Rule) :=
  match ms.get? "properties" with
  | some (.object declared) => propertyRules declared
  | _ => []

/-- The rules of a document are those of its keywords, one after the other. -/
theorem rulesOf_object {ms : Members} :
    rulesOf (.object ms) = keywordRules (isOpen ms) (declaredRules ms) ms := by
  rw [rulesOf]
  split <;> simp_all [declaredRules]

section Keyword

variable {open_ : Bool} {declared : List (String × List Rule)}

/-- A keyword that holds no schemas sets the rule of its value. -/
theorem keywordRule_plain {keyword : String} {v : Json}
    (h : keyword ∉ ["properties", "additionalProperties", "items", "oneOf"]) :
    keywordRule open_ declared keyword v = (plainRule? keyword v).toList := by
  simp only [List.mem_cons, List.not_mem_nil, or_false, not_or] at h
  unfold keywordRule
  rw [if_neg h.1, if_neg h.2.1, if_neg h.2.2.1, if_neg h.2.2.2]

/-- The properties set a rule of their own only where other members are free. -/
theorem keywordRule_properties {v : Json} :
    keywordRule open_ declared "properties" v = if open_ then [.properties declared] else [] := by
  unfold keywordRule
  rw [if_pos rfl]

/-- Where other members are free, nothing is said of them. -/
theorem keywordRule_free : keywordRule open_ declared "additionalProperties" (.bool true) = [] := by
  unfold keywordRule
  rw [if_neg (by decide), if_pos rfl]

/-- Where there are no other members, one rule tells the declared members from the rest. -/
theorem keywordRule_closed :
    keywordRule open_ declared "additionalProperties" (.bool false) = [.members declared none] := by
  unfold keywordRule
  rw [if_neg (by decide), if_pos rfl]

/-- Where other members have a schema, the rule holds both kinds of members. -/
theorem keywordRule_ruled {ms : Members} :
    keywordRule open_ declared "additionalProperties" (.object ms) =
      [.members declared (some (rulesOf (.object ms)))] := by
  unfold keywordRule
  rw [if_neg (by decide), if_pos rfl]

theorem keywordRule_items {v : Json} :
    keywordRule open_ declared "items" v = [.items (rulesOf v)] := by
  unfold keywordRule
  rw [if_neg (by decide), if_neg (by decide), if_pos rfl]

theorem keywordRule_oneOf {branches : List Json} :
    keywordRule open_ declared "oneOf" (.array branches) = [.oneOf (branchRules branches)] := by
  unfold keywordRule
  rw [if_neg (by decide), if_neg (by decide), if_neg (by decide), if_pos rfl]

/-- The rules of the first keyword come before those of the rest. -/
theorem keywordRules_cons {keyword : String} {v : Json} {ms : Members} :
    keywordRules open_ declared ((keyword, v) :: ms) =
      keywordRule open_ declared keyword v ++ keywordRules open_ declared ms := by
  rw [keywordRules]

@[simp] theorem keywordRules_nil : keywordRules open_ declared [] = [] := by
  rw [keywordRules]

theorem keywordRules_append {a b : Members} :
    keywordRules open_ declared (a ++ b) =
      keywordRules open_ declared a ++ keywordRules open_ declared b := by
  induction a with
  | nil => simp
  | cons m a ih =>
    rw [List.cons_append, keywordRules_cons, ih, keywordRules_cons, List.append_assoc]

end Keyword

/-! ## The schemas below -/

theorem propertyRules_eq_map {ms : Members} :
    propertyRules ms = ms.map fun m => (m.1, rulesOf m.2) := by
  induction ms with
  | nil => rw [propertyRules]; rfl
  | cons m ms ih => rw [propertyRules, ih]; rfl

theorem branchRules_eq_map {vs : List Json} : branchRules vs = vs.map rulesOf := by
  induction vs with
  | nil => rw [branchRules]; rfl
  | cons v vs ih => rw [branchRules, ih]; rfl

/-- The rules of the properties are those of the documents of their schemas. -/
theorem propertyRules_renderProperties {properties : List (String × Schema)} :
    propertyRules (renderProperties properties) =
      properties.map fun q => (q.1, rulesOf q.2.render) := by
  rw [renderProperties_eq_map, propertyRules_eq_map, List.map_map]
  rfl

/-- The rules of the branches are those of their documents. -/
theorem branchRules_renderAll {branches : List Schema} :
    branchRules (renderAll branches) = branches.map fun s => rulesOf s.render := by
  rw [renderAll_eq_map, branchRules_eq_map, List.map_map]
  rfl

/-! ## The forms of a schema -/

/-- The rules of the required names: one, where there are names. -/
def requiredRules (names : List String) : List Rule := if names = [] then [] else [.required names]

/-- The rules of the members of an object: one, at the place of the declared ones if the others are
free. -/
def memberRules (declared : List (String × List Rule)) (required : List String) :
    Additional Schema → List Rule
  | .allowed true => .properties declared :: requiredRules required
  | .allowed false => requiredRules required ++ [.members declared none]
  | .schema s => requiredRules required ++ [.members declared (some (rulesOf s.render))]

/-- The required names set one rule, where there are names. -/
theorem keywordRules_requiredKeyword {open_ : Bool} {declared : List (String × List Rule)}
    {names : List String} :
    keywordRules open_ declared (requiredKeyword names) = requiredRules names := by
  unfold requiredKeyword requiredRules
  split_ifs with h
  · exact keywordRules_nil
  · have hnames : (names.map Json.string).mapM Json.asString? = some names := by
      rw [mapM_eq_some_iff, List.forall₂_map_left_iff, List.forall₂_same]
      exact fun _ _ => rfl
    rw [keywordRules_cons, keywordRules_nil, keywordRule_plain (by decide)]
    simp [plainRule?, Json.asArray?, hnames]

/-- **The rules of an object**: its type, and those of its members. -/
theorem rulesOf_render_object {properties : List (String × Schema)} {required : List String}
    {additional : Additional Schema} :
    rulesOf (Schema.object properties required additional).render =
      .type ["object"] ::
        memberRules (properties.map fun q => (q.1, rulesOf q.2.render)) required additional := by
  have hadditional : Members.get? ([("type", .string "object"),
        ("properties", .object (renderProperties properties))] ++ requiredKeyword required ++
        [("additionalProperties", renderAdditional additional)]) "additionalProperties" =
      some (renderAdditional additional) := by
    unfold requiredKeyword
    split_ifs <;> rfl
  have hdeclared : declaredRules ([("type", .string "object"),
        ("properties", .object (renderProperties properties))] ++ requiredKeyword required ++
        [("additionalProperties", renderAdditional additional)]) =
      properties.map fun q => (q.1, rulesOf q.2.render) := propertyRules_renderProperties
  rw [render, rulesOf_object, hdeclared, isOpen, hadditional, keywordRules_append,
    keywordRules_append, keywordRules_requiredKeyword]
  have htype : "type" ∉ ["properties", "additionalProperties", "items", "oneOf"] := by decide
  simp only [keywordRules_cons, keywordRules_nil, keywordRule_properties, keywordRule_plain htype]
  cases additional with
  | allowed flag =>
    cases flag with
    | false => rw [renderAdditional, keywordRule_closed]; rfl
    | true => rw [renderAdditional, keywordRule_free]; simp [plainRule?, memberRules]
  | schema s =>
    rw [renderAdditional, render_eq, keywordRule_ruled, memberRules, render_eq]
    rfl

/-- **The rules of an array**: its type, and that of its items. -/
theorem rulesOf_render_array {items : Schema} :
    rulesOf (Schema.array items).render = [.type ["array"], .items (rulesOf items.render)] := by
  rw [render, rulesOf_object, keywordRules_cons, keywordRules_cons, keywordRules_nil,
    keywordRule_plain (by decide), keywordRule_items]
  rfl

/-- **The rule of null** is its type. -/
theorem rulesOf_render_null : rulesOf Schema.null.render = [.type ["null"]] := by
  rw [render, rulesOf_object, keywordRules_cons, keywordRules_nil, keywordRule_plain (by decide)]
  rfl

/-- **The rule of a union** holds those of its branches. -/
theorem rulesOf_render_oneOf {branches : List Schema} :
    rulesOf (Schema.oneOf branches).render = [.oneOf (branches.map fun s => rulesOf s.render)] := by
  rw [render, rulesOf_object, keywordRules_cons, keywordRules_nil, keywordRule_oneOf,
    branchRules_renderAll]
  rfl

/-! ## Primitive values -/

/-- The rule of the type of a primitive value. -/
def typeRule (name : String) (acceptsNull : Bool) : Rule :=
  .type (if acceptsNull then [name, "null"] else [name])

/-- The rule of the values that are listed, where there is a list. -/
def enumRules {α : Type} (value : α → Json) (members : Option (List α)) : List Rule :=
  (members.map fun members => .enum (members.map value)).toList

/-- The rule of the pattern, where there is one. -/
def patternRules (pattern : Option String) : List Rule :=
  (pattern.map fun text => .pattern text (Pattern.ofText? text)).toList

/-- The rule of the least length, where there is one. -/
def minLengthRules (minLength : Option Unsigned64) : List Rule :=
  (minLength.map fun n => .minLength n.1).toList

section Primitive

variable {open_ : Bool} {declared : List (String × List Rule)} {α : Type} {name : String}
  {value : α → Json}

/-- The `type` keyword sets the rule of the type, with null beside it or not. -/
theorem keywordRules_typeKeyword {acceptsNull : Bool} :
    keywordRules open_ declared [typeKeyword name acceptsNull] = [typeRule name acceptsNull] := by
  rw [typeKeyword, keywordRules_cons, keywordRule_plain (by decide), keywordRules_nil]
  cases acceptsNull <;> rfl

/-- The `enum` keyword sets the rule of the listed values. -/
theorem keywordRules_enumKeyword {members : Option (List α)} :
    keywordRules open_ declared (enumKeyword value members) = enumRules value members := by
  cases members with
  | none => exact keywordRules_nil
  | some members =>
    rw [enumKeyword, keywordRules_cons, keywordRule_plain (by decide), keywordRules_nil]
    rfl

theorem keywordRules_patternKeyword {pattern : Option String} :
    keywordRules open_ declared (pattern.map fun p => ("pattern", Json.string p)).toList =
      patternRules pattern := by
  cases pattern with
  | none => exact keywordRules_nil
  | some text =>
    rw [Option.map_some, Option.toList_some, keywordRules_cons, keywordRule_plain (by decide),
      keywordRules_nil]
    rfl

theorem keywordRules_minLengthKeyword {minLength : Option Unsigned64} :
    keywordRules open_ declared (minLength.map fun n => ("minLength", Json.ofUnsigned n)).toList =
      minLengthRules minLength := by
  cases minLength with
  | none => exact keywordRules_nil
  | some n =>
    have hn : (Json.ofUnsigned n).asUnsigned? = some n := Json.asUnsigned?_eq_some_iff.2 rfl
    rw [Option.map_some, Option.toList_some, keywordRules_cons, keywordRule_plain (by decide),
      keywordRules_nil]
    simp only [plainRule?, hn]
    rfl

/-- **The rules of a primitive value**: its type, and the values that are listed. -/
theorem rulesOf_choiceKeywords {rules : Choice α} :
    rulesOf (.object (choiceKeywords name value rules)) =
      typeRule name rules.acceptsNull :: enumRules value rules.members := by
  rw [rulesOf_object, choiceKeywords, ← List.singleton_append, keywordRules_append,
    keywordRules_typeKeyword, keywordRules_enumKeyword]
  rfl

end Primitive

/-- **The rules of a string**: its type, the values that are listed, its pattern and its least
length. -/
theorem rulesOf_render_string {rules : StringRules} :
    rulesOf (Schema.string rules).render = typeRule "string" rules.acceptsNull ::
      (enumRules .string rules.members ++ patternRules rules.pattern ++
        minLengthRules rules.minLength) := by
  rw [render, rulesOf_object, stringKeywords, choiceKeywords, ← List.singleton_append,
    keywordRules_append, keywordRules_append, keywordRules_append, keywordRules_typeKeyword,
    keywordRules_enumKeyword, keywordRules_patternKeyword, keywordRules_minLengthKeyword]
  rfl

end ApiContract.Draft4
