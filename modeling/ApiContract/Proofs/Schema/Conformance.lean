import ApiContract.Pattern.Basic
import ApiContract.Schema.Basic
import Mathlib.Logic.ExistsUnique

/-!
# Proofs/Schema/Conformance — what canonical schemas mean

`Schema.Conforms` says which instances conform to a canonical schema, by recursion on the schema and
without its rendering.  `Schema.Within` lists the schemas at every depth of a schema, which is how
the conditions on a schema are stated: that it has no union without branches, that its patterns are
patterns, that the names in its maps and sets differ.
-/

namespace ApiContract

/-! ## Schemas at every depth -/

/-- **A schema at some depth of another**: that schema itself, or one below it. -/
inductive Schema.Within : Schema → Schema → Prop
  | refl {s : Schema} : Within s s
  | property {s c : Schema} {name : String} {properties : List (String × Schema)}
    {required : List String} {additional : Additional Schema} (hm : (name, c) ∈ properties)
    (h : Within s c) : Within s (.object properties required additional)
  | additional {s c : Schema} {properties : List (String × Schema)} {required : List String}
    (h : Within s c) : Within s (.object properties required (.schema c))
  | items {s c : Schema} (h : Within s c) : Within s (.array c)
  | branch {s c : Schema} {branches : List Schema} (hm : c ∈ branches) (h : Within s c) :
    Within s (.oneOf branches)

theorem Schema.Within.trans {r s c : Schema} (h : r.Within s) (hs : s.Within c) : r.Within c := by
  induction hs with
  | refl => exact h
  | property hm _ ih => exact .property hm ih
  | additional _ ih => exact .additional ih
  | items _ ih => exact .items ih
  | branch hm _ ih => exact .branch hm ih

/-- Induction over a schema: what holds of every schema right below one holds of that. -/
@[elab_as_elim]
theorem Schema.inductBelow {motive : Schema → Prop}
    (object : ∀ properties required additional, (∀ q ∈ properties, motive q.2) →
      (∀ s, additional = .schema s → motive s) → motive (.object properties required additional))
    (array : ∀ items, motive items → motive (.array items))
    (string : ∀ rules, motive (.string rules)) (integer : ∀ rules, motive (.integer rules))
    (boolean : ∀ rules, motive (.boolean rules)) (float : ∀ rules, motive (.float rules))
    (null : motive .null)
    (oneOf : ∀ branches, (∀ s ∈ branches, motive s) → motive (.oneOf branches)) :
    ∀ c, motive c
  | .object properties required additional => by
    refine object _ _ _ (fun q hq => ?_) fun s hs => ?_
    · have : sizeOf q.2 < sizeOf properties := by
        have := List.sizeOf_lt_of_mem hq
        obtain ⟨name, s⟩ := q
        simp at this ⊢
        omega
      exact inductBelow object array string integer boolean float null oneOf q.2
    · subst hs
      exact inductBelow object array string integer boolean float null oneOf s
  | .array items => array _ (inductBelow object array string integer boolean float null oneOf items)
  | .string rules => string rules
  | .integer rules => integer rules
  | .boolean rules => boolean rules
  | .float rules => float rules
  | .null => null
  | .oneOf branches => oneOf _ fun s hs => by
    have := List.sizeOf_lt_of_mem hs
    exact inductBelow object array string integer boolean float null oneOf s
termination_by c => sizeOf c

/-- **A schema whose names differ**: those of the properties of each object in it, and those it
requires. -/
def Schema.HasDistinctNames (c : Schema) : Prop :=
  ∀ properties required additional, (object properties required additional).Within c →
    (properties.map (·.1)).Nodup ∧ required.Nodup

/-- **A schema whose patterns are patterns**, at any depth. -/
def Schema.HasPatterns (c : Schema) : Prop :=
  ∀ rules text, (string rules).Within c → rules.pattern = some text → (Pattern.ofText? text).isSome

/-- **A schema none of whose unions is empty**, at any depth. -/
def Schema.HasBranches (c : Schema) : Prop := ¬ (oneOf []).Within c

section Within

variable {s c : Schema}

theorem Schema.HasDistinctNames.within (h : c.HasDistinctNames) (hs : s.Within c) :
    s.HasDistinctNames :=
  fun properties required additional ho => h properties required additional (ho.trans hs)

theorem Schema.HasPatterns.within (h : c.HasPatterns) (hs : s.Within c) : s.HasPatterns :=
  fun rules text hr => h rules text (hr.trans hs)

theorem Schema.HasBranches.within (h : c.HasBranches) (hs : s.Within c) : s.HasBranches :=
  fun hb => h (hb.trans hs)

end Within

/-! ## Conformance -/

/-- A text has a match of the pattern that a text writes. -/
def Pattern.Matches (text s : String) : Prop :=
  ∃ p, Pattern.ofText? text = some p ∧ p.search s = .ok true

theorem Pattern.matches_iff {text s : String} :
    Matches text s ↔ ((ofText? text).any fun p => p.search s matches .ok true) = true := by
  rw [Option.any_eq_true]
  refine exists_congr fun p => and_congr_right fun _ => ?_
  split <;> simp_all

instance (text s : String) : Decidable (Pattern.Matches text s) :=
  decidable_of_iff _ Pattern.matches_iff.symm

/-- **An instance keeps the rules of a choice**: it is of the kind, or null where null is accepted;
and where values are listed, it is one of them. -/
structure Choice.Conforms {α : Type} (isKind : Json → Prop) (is : α → Json → Prop)
    (rules : Choice α) (v : Json) : Prop where
  kind : isKind v ∨ rules.acceptsNull = true ∧ v = .null
  member : ∀ members, rules.members = some members → ∃ a ∈ members, is a v

/-- **An instance keeps the rules of a string**: those of its choice; and a string has a match of
the pattern, and as many characters as are asked for. -/
structure StringRules.Conforms (rules : StringRules) (v : Json) : Prop where
  choice : rules.toChoice.Conforms (fun v => ∃ s, v = .string s) (fun s v => v = .string s) v
  pattern : ∀ s text, v = .string s → rules.pattern = some text → Pattern.Matches text s
  minLength : ∀ s n, v = .string s → rules.minLength = some n → n.1 ≤ s.length

/-- A value is a number of this exact value. -/
def Json.IsNumber (x : Rat) (v : Json) : Prop := ∃ n : Json.Number, v = .number n ∧ n.toRat = x

/-- **An instance conforms to a schema.**  Exactly one branch of a union conforms; an object has the
names that are required, its declared members conform, and what it says of others holds of the
others. -/
def Schema.Conforms : Schema → Json → Prop
  | .object properties required additional, v => ∃ ms : Members, v = .object ms ∧
    (∀ name ∈ required, name ∈ ms.keys) ∧
    (∀ m ∈ ms, ∀ s, (_h : (m.1, s) ∈ properties) → Conforms s m.2) ∧
    (additional = .allowed false → ∀ m ∈ ms, m.1 ∈ properties.map (·.1)) ∧
    (∀ s, (_h : additional = .schema s) → ∀ m ∈ ms, m.1 ∉ properties.map (·.1) → Conforms s m.2)
  | .array items, v => ∃ vs, v = .array vs ∧ ∀ x ∈ vs, Conforms items x
  | .string rules, v => rules.Conforms v
  | .integer rules, v =>
    rules.Conforms (fun v => ∃ n fits, v = .number (.int n fits)) (fun n => Json.IsNumber n.1) v
  | .boolean rules, v => rules.Conforms (fun v => ∃ b, v = .bool b) (fun b v => v = .bool b) v
  | .float rules, v =>
    rules.Conforms (fun v => ∃ n, v = .number n) (fun x => Json.IsNumber x.toRat) v
  | .null, v => v = .null
  | .oneOf branches, v => ∃! i : Fin branches.length, Conforms branches[i] v
termination_by s => sizeOf s
decreasing_by
  · have := List.sizeOf_lt_of_mem _h
    simp at this ⊢
    omega
  · simp [_h]
    omega
  · simp
  · have := List.sizeOf_lt_of_mem (List.getElem_mem i.2)
    simp at this ⊢
    omega

end ApiContract
