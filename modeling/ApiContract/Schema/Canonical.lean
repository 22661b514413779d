import ApiContract.Schema.Node

/-!
# Schema/Canonical — reading a schema of the document into canonical form

`Schema.ofJson` reads a node by its form: it gives a reference its component, reads the schemas
below, and folds `nullable` into the result.  Any defect below a node is told before one of its
`nullable`.
-/

namespace ApiContract

namespace Schema

/-- The schema of a typed node, once what stands below it is read. -/
def finish (p : Location) (nullable : Option Json) (s : Schema) : Checked Schema :=
  (Node.isNullable p nullable).map fun flag => if flag then s.orNull else s

mutual

/-- **The canonical schema of a node.** -/
def ofJson (components : Components) (p : Location) : Json → Checked Schema
  | .object ms => match h : Node.ofMembers p ms with
    | .error d => .error d
    | .ok (.reference target) => Node.resolve components p target
    | .ok (.union branches) =>
      have : sizeOf branches < sizeOf ms := Node.ofMembers_below h
      (ofBranches components p 0 branches).map .oneOf
    | .ok (.typed (.primitive s) nullable) => finish p nullable s
    | .ok (.typed (.array items) nullable) => do
      have : sizeOf items < sizeOf ms := Node.ofMembers_below h
      finish p nullable (.array (← ofJson components (p.member "items") items))
    | .ok (.typed (.object declared required (.allowed flag)) nullable) => do
      have : sizeOf declared < sizeOf ms := (Node.ofMembers_below h).1
      let properties ← ofProperties components p declared
      finish p nullable (.object (Keyed.ofList properties) required (.allowed flag))
    | .ok (.typed (.object declared required (.schema v)) nullable) => do
      have : sizeOf declared < sizeOf ms := (Node.ofMembers_below h).1
      have : sizeOf v < sizeOf ms := (Node.ofMembers_below h).2 v rfl
      let extra ← ofJson components (p.member "additionalProperties") v
      let properties ← ofProperties components p declared
      finish p nullable (.object (Keyed.ofList properties) required (.schema extra))
  | _ => refuse p .notObject
termination_by v => sizeOf v

/-- The canonical schemas of the branches of a union, from index `i` on. -/
def ofBranches (components : Components) (p : Location) (i : Nat) :
    List Json → Checked (List Schema)
  | [] => .ok []
  | v :: rest => do
    let s ← ofJson components ((p.member "oneOf").element i) v
    return s :: (← ofBranches components p (i + 1) rest)
termination_by vs => sizeOf vs

/-- The canonical schemas of the properties of an object, in document order. -/
def ofProperties (components : Components) (p : Location) : List (String × Json) →
    Checked (List (String × Schema))
  | [] => .ok []
  | (name, v) :: rest => do
    let s ← ofJson components (p.member name) v
    return (name, s) :: (← ofProperties components p rest)
termination_by ms => sizeOf ms

end

end Schema

end ApiContract
