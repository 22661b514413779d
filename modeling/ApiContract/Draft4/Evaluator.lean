import ApiContract.Draft4.Metaschema
import ApiContract.Draft4.Violation
import ApiContract.Schema.Rendering

/-!
# Draft4/Evaluator — checking an instance against a canonical schema

An evaluator accepts an instance or says what is wrong with it.  The standing one renders the
canonical schema, checks the document against the metaschema and lists the violations of its rules.
-/

namespace ApiContract

/-- Checks an instance against a canonical schema; an error describes what is wrong. -/
abbrev Evaluator := Schema → Json → Except String Unit

namespace Draft4

/-- The rules of a canonical schema, or why its document is no schema.  A text that the metaschema
takes for a pattern may still be none. -/
def compile (s : Schema) : Except SchemaFault (List Rule) :=
  let rules := rulesOf s.render
  match (fault? s.render).or ((firstBadPattern? rules).map .badPattern) with
  | some f => .error f
  | none => .ok rules

/-- All violations of a canonical schema by an instance. -/
def violationsOf (s : Schema) (v : Json) : Except SchemaFault (List Violation) :=
  (compile s).map (violations "" v)

/-- The wording of a fault of the schema. -/
def faultMessage (f : SchemaFault) : String := "invalid schema: " ++ f.text

/-- The wording of some violations. -/
def violationsMessage (xs : List Violation) : String := "; ".intercalate (xs.map Violation.text)

/-- **The standing evaluator.** -/
def evaluate : Evaluator := fun s v =>
  match violationsOf s v with
  | .error f => .error (faultMessage f)
  | .ok [] => .ok ()
  | .ok xs => .error (violationsMessage xs)

end Draft4

end ApiContract
