import ApiContract.Proofs.Document.Schemas
import ApiContract.Proofs.Draft4.Metaschema
import ApiContract.Proofs.Schema.Distinct

/-!
# Proofs/Draft4/Bodies — which bodies can be checked

Every schema that a body of a contract is checked against was read from the document, so the names
in it differ.  **`bodySchema_invalid_iff`**: where its patterns are patterns, the metaschema accepts
its document, and the evaluator never answers that the schema is invalid, exactly when no union in
it is empty.  An empty union is read like any other, and no body passes where there is one
(`integerOrNone_invalid`).
-/

namespace ApiContract.Draft4

/-! ## Schemas that are invalid -/

/-- Violations are told with the place they stand at. -/
theorem exists_violationsMessage_eq (x : Violation) (xs : List Violation) :
    ∃ rest, violationsMessage (x :: xs) = "#" ++ rest := by
  rw [violationsMessage, List.map_cons, Violation.text, String.append_assoc, String.append_assoc,
    String.intercalate_cons_append]
  exact ⟨_, rfl⟩

/-- What is said of an instance is no word on the schema. -/
theorem violationsMessage_ne_invalid (x : Violation) (xs : List Violation) (reason : String) :
    violationsMessage (x :: xs) ≠ "invalid schema: " ++ reason := by
  intro h
  obtain ⟨rest, hrest⟩ := exists_violationsMessage_eq x xs
  have hfirst := congrArg String.toList (hrest.symm.trans h)
  rw [String.toList_append, String.toList_append] at hfirst
  exact absurd (List.cons.inj hfirst).1 (by decide)

/-- A schema is called invalid when it does not compile. -/
theorem exists_evaluate_invalid_iff {s : Schema} {v : Json} :
    (∃ reason, evaluate s v = .error ("invalid schema: " ++ reason)) ↔ ¬ Compiles s := by
  unfold evaluate violationsOf Compiles
  cases compile s with
  | error f =>
    refine iff_of_true ⟨f.text, rfl⟩ ?_
    rintro ⟨rules, h⟩
    cases h
  | ok rules =>
    refine iff_of_false ?_ (not_not.2 ⟨rules, rfl⟩)
    rintro ⟨reason, h⟩
    rw [Except.map] at h
    split at h
    next hread => cases hread
    next => cases h
    next xs hxs hread =>
      cases xs with
      | nil => exact hxs rfl
      | cons x xs => exact violationsMessage_ne_invalid x xs reason (Except.error.inj h)

/-- **A body can be checked unless a union in its schema is empty.**  For every schema of a body in
a contract that is read, if its patterns are patterns: its document is a schema of the draft exactly
when none of its unions is empty, and it is when one is that the evaluator calls it invalid,
whatever the instance. -/
theorem bodySchema_invalid_iff {document : Json} {c : Contract}
    (hc : Contract.ofJson document = .ok c) {s : Schema} (hs : s ∈ c.bodySchemas)
    (patterns : s.HasPatterns) :
    (fault? s.render = none ↔ s.HasBranches) ∧
      ∀ v, (∃ reason, evaluate s v = .error ("invalid schema: " ++ reason)) ↔
        ¬ s.HasBranches := by
  have names := (Contract.hasMaps_of_bodySchema hc hs).hasDistinctNames
  refine ⟨fault?_render_eq_none_iff names patterns, fun v => ?_⟩
  rw [exists_evaluate_invalid_iff, compiles_iff names, and_iff_left patterns]

/-! ## A union without branches -/

/-- A body that is any string can be checked. -/
theorem stringBody_valid :
    fault? (Schema.string {}).render = none ∧
      ∀ v reason, evaluate (.string {}) v ≠ .error ("invalid schema: " ++ reason) := by
  have hread := ofJson_bodyDocument (Schema.declaredBy_of_ofJson (Schema.ofJson_string ""))
  have hbranches : (Schema.string {}).HasBranches := nofun
  have hpatterns : (Schema.string {}).HasPatterns := by
    rintro rules text hr htext
    cases hr
    cases htext
  obtain ⟨hfault, hinvalid⟩ := bodySchema_invalid_iff hread List.mem_cons_self hpatterns
  exact ⟨hfault.2 hbranches, fun v reason h => (hinvalid v).1 ⟨reason, h⟩ hbranches⟩

/-- An integer, or what conforms to one of no schemas. -/
def integerOrNone : Json :=
  .object [("oneOf", .array
    [.object [("type", .string "integer")], .object [("oneOf", .array [])]])]

/-- The same, in canonical form. -/
def integerOrNoneSchema : Schema := .oneOf [.integer {}, .oneOf []]

theorem declaredBy_integerOrNone : integerOrNoneSchema.DeclaredBy [] integerOrNone := by
  have hinteger : (Schema.integer {}).DeclaredBy [] (.object [("type", .string "integer")]) :=
    .primitive (.typed rfl (.integer (.of_checkKeys rfl) .absent)) .absent
  have hempty : (Schema.oneOf []).DeclaredBy [] (.object [("oneOf", .array [])]) :=
    .union (.union (.of_checkKeys rfl) rfl) .nil
  exact .union (.union (.of_checkKeys rfl) rfl) (.cons hinteger (.cons hempty .nil))

/-- **A schema that is read need not be valid**, though there is no pattern in it: a document with a
body of this schema is read, and whatever is sent as the body, the evaluator calls the schema
invalid. -/
theorem integerOrNone_invalid :
    Contract.ofJson (bodyDocument integerOrNone) = .ok ⟨[newPetPath integerOrNoneSchema]⟩ ∧
      integerOrNoneSchema ∈ Contract.bodySchemas ⟨[newPetPath integerOrNoneSchema]⟩ ∧
      integerOrNoneSchema.HasPatterns ∧ fault? integerOrNoneSchema.render ≠ none ∧
      ∀ v, evaluate integerOrNoneSchema v = .error "invalid schema: [] has less than 1 item" := by
  have hpatterns : integerOrNoneSchema.HasPatterns := by
    rintro rules text hr
    cases hr with
    | branch hm hr =>
      rcases List.mem_pair.1 hm with rfl | rfl
      · cases hr
      · cases hr with
        | branch hm => cases hm
  exact ⟨ofJson_bodyDocument declaredBy_integerOrNone, List.mem_cons_self, hpatterns, nofun,
    fun _ => rfl⟩

end ApiContract.Draft4
