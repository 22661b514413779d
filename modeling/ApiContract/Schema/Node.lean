import ApiContract.Document.Check
import ApiContract.Keyed
import ApiContract.Schema.Basic

/-!
# Schema/Node — the form of one schema of the document

A node is read in two steps.  `Node.ofMembers` looks at its own members: which of the forms it has,
and whether its keys, and the values that are no schemas, are what that form allows.
`Schema.ofJson` then reads the schemas below it (`Schema/Canonical`).  `ofMembers_below` says those
are smaller than the node.
-/

namespace ApiContract

/-- The canonical component schemas by name. -/
abbrev Components := List (String × Schema)

/-- A node that has a type, the schemas below it still to be read. -/
inductive TypedNode where
  | object (declared : Members) (required : List String) (additional : Additional Json)
  | array (items : Json)
  | primitive (s : Schema)

/-- A schema node by its form. -/
inductive Node where
  | reference (target : Json)
  | union (branches : List Json)
  | typed (node : TypedNode) (nullable : Option Json)

namespace Node

/-- Every key a node may have, whatever its form. -/
def nodeKeys : List String :=
  ["type", "items", "required", "properties", "enum", "additionalProperties", "nullable", "pattern",
    "minLength", "$ref", "oneOf"]

/-- The members of an enumeration, all of one kind. -/
def enumeration {α : Type} (p : Location) (ms : Members) (kind : EnumKind)
    (member : Json → Option α) : Checked (Option (List α)) :=
  match ms.get? "enum" with
  | none => .ok none
  | some v => match v.asArray?.bind (·.mapM member) with
    | some members => .ok (some members)
    | none => refuse (p.member "enum") (.notArrayOf kind)

/-- The pattern of a string. -/
def pattern (p : Location) (ms : Members) : Checked (Option String) :=
  match ms.get? "pattern" with
  | none => .ok none
  | some (.string s) => .ok (some s)
  | some _ => refuse (p.member "pattern") .notString

/-- The least length of a string. -/
def minLength (p : Location) (ms : Members) : Checked (Option Unsigned64) :=
  match ms.get? "minLength" with
  | none => .ok none
  | some v => match v.asUnsigned? with
    | some n => .ok (some n)
    | none => refuse (p.member "minLength") .notLength

/-- The names an object requires, in ascending order, each of them declared. -/
def requiredNames (p : Location) (ms declared : Members) : Checked (List String) :=
  match ms.get? "required" with
  | none => .ok []
  | some v => do
    let names := (← v.expectArray (p.member "required")).map Json.bare
    let undeclared := names.filter fun name => !declared.has name
    if undeclared ≠ [] then refuse p (.undeclaredRequired undeclared)
    else return Keyed.keysOf names

/-- What an object says about members it does not declare; nothing said, there are none. -/
def additional (ms : Members) : Additional Json :=
  match ms.get? "additionalProperties" with
  | none => .allowed false
  | some (.bool flag) => .allowed flag
  | some v => .schema v

/-- Whether a node accepts null besides. -/
def isNullable (p : Location) : Option Json → Checked Bool
  | none | some .null => .ok false
  | some (.bool flag) => .ok flag
  | some _ => refuse (p.member "nullable") .notFlag

/-- An object node. -/
def objectNode (p : Location) (ms : Members) : Checked TypedNode := do
  let declared ← (← ms.fetch p "properties").expectObject (p.member "properties")
  let required ← requiredNames p ms declared
  return .object declared required (additional ms)

/-- A string node. -/
def stringNode (p : Location) (ms : Members) : Checked TypedNode := do
  let members ← enumeration p ms .strings Json.asString?
  let pattern ← pattern p ms
  let minLength ← minLength p ms
  return .primitive (.string { members, pattern, minLength })

/-- A node of a primitive type other than string. -/
def choiceNode {α : Type} (p : Location) (ms : Members) (kind : EnumKind) (member : Json → Option α)
    (make : Choice α → Schema) : Checked TypedNode := do
  let members ← enumeration p ms kind member
  return .primitive (make { members })

/-- A node with a `type`. -/
def typedNode (p : Location) (ms : Members) (type : Json) : Checked TypedNode :=
  let keys := ms.checkKeys (p.reading type.bare)
  match type.asString? with
  | some "object" => do
    keys ["type", "properties"] ["required", "additionalProperties", "nullable"]
    objectNode p ms
  | some "array" => do
    keys ["type", "items"] ["nullable"]
    return .array (← ms.fetch p "items")
  | some "string" => do
    keys ["type"] ["nullable", "pattern", "enum", "minLength"]
    stringNode p ms
  | some "integer" => do
    keys ["type"] ["nullable", "enum"]
    choiceNode p ms .integers Json.asSigned? .integer
  | some "boolean" => do
    keys ["type"] ["nullable", "enum"]
    choiceNode p ms .booleans Json.asBool? .boolean
  | some "float" => do
    keys ["type"] ["nullable", "enum"]
    choiceNode p ms .numbers Json.asFloat? .float
  | _ => refuse p (.unknownType type)

/-- A node by the form its members give it. -/
def ofMembers (p : Location) (ms : Members) : Checked Node := do
  ms.checkKeys p [] nodeKeys
  match ms.get? "type" with
  | some type => return .typed (← typedNode p ms type) (ms.get? "nullable")
  | none =>
    if ms.has "$ref" then
      ms.checkKeys (p.reading "no type") [] ["$ref"]
      return .reference (← ms.fetch p "$ref")
    else if ms.has "oneOf" then
      ms.checkKeys (p.reading "no type") [] ["oneOf"]
      return .union (← (← ms.fetch p "oneOf").expectArray (p.member "oneOf"))
    else refuse p .noType

/-- The component a reference is to. -/
def resolve (components : Components) (p : Location) (target : Json) : Checked Schema :=
  match target.asString?.bind fun s =>
    (dropPrefix? "#/components/schemas/".toList s.toList).map String.ofList with
  | none => refuse (p.member "$ref") .badReference
  | some name => match Keyed.get? name components with
    | some s => .ok s
    | none => refuse (p.member "$ref") (.unknownComponent name)
where
  /-- What follows a beginning. -/
  dropPrefix? : List Char → List Char → Option (List Char)
    | [], rest => some rest
    | c :: cs, d :: ds => if c = d then dropPrefix? cs ds else none
    | _ :: _, [] => none

end Node

/-! ## What stands below a node is smaller -/

theorem Members.sizeOf_get? {ms : Members} {key : String} {v : Json} (h : ms.get? key = some v) :
    sizeOf v < sizeOf ms := by
  unfold Members.get? at h
  induction ms with
  | nil => simp at h
  | cons m ms ih =>
    obtain ⟨k, w⟩ := m
    rw [List.lookup_cons] at h
    split at h
    · cases h; simp; omega
    · have := ih h; simp; omega

theorem Members.get?_of_fetch {p : Location} {ms : Members} {key : String} {v : Json}
    (h : ms.fetch p key = .ok v) : ms.get? key = some v := by
  unfold Members.fetch at h
  split at h
  · simp_all
  · simp [refuse] at h

theorem Json.eq_object_of_expectObject {p : Location} {v : Json} {ms : Members}
    (h : v.expectObject p = .ok ms) : v = .object ms := by
  cases v <;> simp_all [Json.expectObject, refuse]

theorem Json.eq_array_of_expectArray {p : Location} {v : Json} {items : List Json}
    (h : v.expectArray p = .ok items) : v = .array items := by
  cases v <;> simp_all [Json.expectArray, refuse]

namespace TypedNode

/-- Every value below the node is smaller than `n`. -/
def Below (n : Nat) : TypedNode → Prop
  | object declared _ additional => sizeOf declared < n ∧ ∀ v, additional = .schema v → sizeOf v < n
  | array items => sizeOf items < n
  | primitive _ => True

end TypedNode

namespace Node

/-- Every value below the node is smaller than `n`. -/
def Below (n : Nat) : Node → Prop
  | reference _ => True
  | union branches => sizeOf branches < n
  | typed node _ => node.Below n

theorem objectNode_below {p : Location} {ms : Members} {node : TypedNode}
    (h : objectNode p ms = .ok node) : node.Below (sizeOf ms) := by
  simp only [objectNode, Checked.bind_eq_ok, Checked.pure_eq_ok] at h
  obtain ⟨v, hv, declared, hd, required, -, rfl⟩ := h
  have hv := Members.sizeOf_get? (Members.get?_of_fetch hv)
  cases Json.eq_object_of_expectObject hd
  refine ⟨by simp at hv; omega, fun w hw => ?_⟩
  unfold additional at hw
  split at hw <;> simp_all
  exact Members.sizeOf_get? ‹_›

theorem stringNode_below {p : Location} {ms : Members} {node : TypedNode} {n : Nat}
    (h : stringNode p ms = .ok node) : node.Below n := by
  simp only [stringNode, Checked.bind_eq_ok, Checked.pure_eq_ok] at h
  obtain ⟨_, -, _, -, _, -, rfl⟩ := h
  trivial

theorem choiceNode_below {α : Type} {p : Location} {ms : Members} {kind : EnumKind}
    {member : Json → Option α} {make : Choice α → Schema} {node : TypedNode} {n : Nat}
    (h : choiceNode p ms kind member make = .ok node) : node.Below n := by
  simp only [choiceNode, Checked.bind_eq_ok, Checked.pure_eq_ok] at h
  obtain ⟨_, -, rfl⟩ := h
  trivial

theorem typedNode_below {p : Location} {ms : Members} {type : Json} {node : TypedNode}
    (h : typedNode p ms type = .ok node) : node.Below (sizeOf ms) := by
  unfold typedNode at h
  split at h <;> simp only [Checked.bind_eq_ok, Checked.pure_eq_ok] at h
  · exact objectNode_below h.choose_spec.2
  · obtain ⟨_, -, items, hi, rfl⟩ := h
    exact Members.sizeOf_get? (Members.get?_of_fetch hi)
  · exact stringNode_below h.choose_spec.2
  · exact choiceNode_below h.choose_spec.2
  · exact choiceNode_below h.choose_spec.2
  · exact choiceNode_below h.choose_spec.2
  · simp [refuse] at h

theorem ofMembers_below {p : Location} {ms : Members} {node : Node}
    (h : ofMembers p ms = .ok node) : node.Below (sizeOf ms) := by
  simp only [ofMembers, Checked.bind_eq_ok] at h
  obtain ⟨-, -, h⟩ := h
  split at h
  · simp only [Checked.bind_eq_ok, Checked.pure_eq_ok] at h
    obtain ⟨node, h, rfl⟩ := h
    exact typedNode_below h
  · split at h
    · simp only [Checked.bind_eq_ok, Checked.pure_eq_ok] at h
      obtain ⟨-, -, _, -, rfl⟩ := h
      trivial
    · split at h
      · simp only [Checked.bind_eq_ok, Checked.pure_eq_ok] at h
        obtain ⟨-, -, v, hv, items, hi, rfl⟩ := h
        have hv := Members.sizeOf_get? (Members.get?_of_fetch hv)
        cases Json.eq_array_of_expectArray hi
        simp only [Below]
        simp at hv; omega
      · simp [refuse] at h

end Node

end ApiContract
