import ApiContract.Yaml.Node
import ApiContract.Yaml.Plain

/-!
# Yaml/Reader — reading YAML text

`Yaml.read?` reads a text of at most one document.  Links stand for the node last given their
number; collections may lie 128 deep, and links may be followed a hundred times for every node.
-/

namespace ApiContract.Yaml

/-- The value of a scalar, by its tag if that decides. -/
def ofScalar? (tag : Option Tag) (isPlain : Bool) (s : String) : Option Yaml :=
  let untagged := if isPlain then ofPlain? s else some (.string s)
  match tag.map Tag.sense with
  | none => untagged
  | some (.custom (some name)) => untagged.map (.tagged name)
  | some (.custom none) => untagged
  | some .bool => (boolWord? s).map .bool
  | some .integer => (integer? s.toList).bind fun n =>
    if isWide n then (ofInteger? n).map .number else none
  | some .float => (float? s.toList).map .number
  | some .null => if isNullWord s then some .null else none
  | some .other => some (.string s)

/-- A collection under the name its tag gives it. -/
def named (tag : Option Tag) (v : Yaml) : Yaml :=
  match tag.map Tag.sense with
  | some (.custom (some name)) => .tagged name v
  | _ => v

namespace Node

mutual

/-- The anchored nodes of a node, in document order. -/
def anchored : Node → List (Nat × Node)
  | link _ => []
  | scalar p isPlain s => own p (scalar p isPlain s)
  | sequence p items => own p (sequence p items) ++ anchoredItems items
  | mapping p entries => own p (mapping p entries) ++ anchoredMembers entries
where
  /-- A node under its own anchor. -/
  own (p : Properties) (n : Node) : List (Nat × Node) := p.anchor.toList.map (·, n)

/-- The anchored nodes of entries. -/
def anchoredItems : List Node → List (Nat × Node)
  | [] => []
  | n :: rest => n.anchored ++ anchoredItems rest

/-- The anchored nodes of members. -/
def anchoredMembers : List (Node × Node) → List (Nat × Node)
  | [] => []
  | (k, v) :: rest => k.anchored ++ v.anchored ++ anchoredMembers rest

/-- The starts and ends of a node and those in it; scalars and links count once. -/
def size : Node → Nat
  | link _ => 1
  | scalar _ _ _ => 1
  | sequence _ items => 2 + sizeItems items
  | mapping _ entries => 2 + sizeMembers entries

/-- The sizes of entries. -/
def sizeItems : List Node → Nat
  | [] => 0
  | n :: rest => n.size + sizeItems rest

/-- The sizes of members. -/
def sizeMembers : List (Node × Node) → Nat
  | [] => 0
  | (k, v) :: rest => k.size + v.size + sizeMembers rest

end

end Node

/-- Composing a value, while some number of links may still be followed. -/
abbrev Compose := StateT Nat Option

/-- The node that a node stands for. -/
def follow (anchors : List (Nat × Node)) : Node → Compose Node
  | .link n => do
    let left ← get
    guard (0 < left)
    MonadStateOf.set (left - 1)
    (anchors.lookup n : Option Node)
  | node => return node

/-- The value of a node whose collections lie at most `depth` deep. -/
def compose (anchors : List (Nat × Node)) : Nat → Node → Compose Yaml
  | 0, node => do
    match ← follow anchors node with
    | .scalar p isPlain s => (ofScalar? p.tag isPlain s : Option Yaml)
    | _ => failure
  | depth + 1, node => do
    match ← follow anchors node with
    | .link _ => failure
    | .scalar p isPlain s => (ofScalar? p.tag isPlain s : Option Yaml)
    | .sequence p items => return named p.tag (.sequence (← items.mapM (compose anchors depth)))
    | .mapping p entries =>
      let add (done : List (Yaml × Yaml)) (e : Node × Node) : Compose (List (Yaml × Yaml)) := do
        let key ← compose anchors depth e.1
        guard !hasKey done key
        return (key, ← compose anchors depth e.2) :: done
      return named p.tag (.mapping (← entries.foldlM add []).reverse)

/-- The one node of a token list; none for a text without content. -/
def rootNode? (tokens : List Token) : Option (Option Node) :=
  if tokens.isEmpty then some none else
    let body := tokens.dropWhile (· = .directive)
    let stops (t : Token) : Bool := t = .directive || t = .documentStart || t = .documentEnd
    let root : Node.Read Node := match body with
      | .documentStart :: [] => some (.empty, [])
      | .documentStart :: body => Node.readUnless stops true false body
      | body => if body.length = tokens.length then Node.read true false body else none
    match root with
    | some (node, rest) => if rest.all (· = .documentEnd) then some (some node) else none
    | none => none

/-- **The value of a text**, if it is YAML. -/
def read? (s : String) : Option Yaml := do
  match ← rootNode? (← Token.ofText? s) with
  | none => return .null
  | some root => return (← (compose root.anchored.reverse 128 root).run (100 * root.size)).1

end ApiContract.Yaml
