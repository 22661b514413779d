import ApiContract.Pattern.Plain.Reader

/-!
# Pattern/Regular/Basic — regular patterns

A regular pattern is a plain one with its flags and names given their meaning: what is left are sets
of characters, conditions on places, and the ways to put them together.
-/

namespace ApiContract.Pattern

/-- A regular pattern. -/
inductive Regular where
  | empty
  | one (s : CharClass)
  | place (t : PlaceTest)
  | sequence (a b : Regular)
  | choice (a b : Regular)
  | repeated (p : Regular) (least : Nat) (most : Option Nat) (greedy : Bool)
  | group (index : Nat) (p : Regular)

/-- Whether only the empty text can match. -/
def Regular.isNarrow : Regular → Bool
  | empty | place _ => true
  | one _ => false
  | sequence a b | choice a b => a.isNarrow && b.isNarrow
  | repeated p _ most _ => p.isNarrow || most == some 0
  | group _ p => p.isNarrow

/-- Whether the empty text cannot match, whatever stands around it. -/
def Regular.isSolid : Regular → Bool
  | empty | place _ => false
  | one _ => true
  | sequence a b => a.isSolid || b.isSolid
  | choice a b => a.isSolid && b.isSolid
  | repeated p least _ _ => p.isSolid && least != 0
  | group _ p => p.isSolid

/-- The bounds of a repetition; what only matches the empty text is matched at most once. -/
def Regular.bounds (p : Regular) (least : Nat) (most : Option Nat) : Nat × Option Nat :=
  if p.isNarrow then (min least 1, some (min (most.getD 1) 1)) else (least, most)

/-- The flags that matter to the meaning of a pattern. -/
structure Flags where
  anyCase : Bool := false
  lines : Bool := false
  newLines : Bool := false
  lazyFirst : Bool := false

/-- The flags after a letter, switched on or off; patterns of bytes and of breaks of two characters
are refused. -/
def Flags.set? (f : Flags) (letter : Char) (on : Bool) : Option Flags :=
  match letter with
  | 'i' => some { f with anyCase := on }
  | 'm' => some { f with lines := on }
  | 's' => some { f with newLines := on }
  | 'U' => some { f with lazyFirst := on }
  | 'x' => some f
  | 'u' => if on then some f else none
  | _ => if on then none else some f

/-- The flags after a change of them. -/
def Flags.change? (f : Flags) (change : FlagChange) : Option Flags :=
  change.foldlM (fun f c => f.set? c.1 c.2) f

/-- The set a shorthand stands for. -/
def shorthandClass (letter : Char) : CharClass :=
  CharClass.complementIf letter.isUpper <| match letter.toLower with
    | 'd' => Unicode.digitClass
    | 'w' => Unicode.wordClass
    | _ => Unicode.whiteSpace

/-- What an operation makes of two sets. -/
def SetOperation.apply : SetOperation → CharClass → CharClass → CharClass
  | intersection => .intersection
  | difference => .difference
  | symmetricDifference => .symmetricDifference

mutual

/-- The set that a class stands for, in any case if so asked, if it names only properties there
are. -/
def ClassItem.meaning? (anyCase : Bool) : ClassItem → Option CharClass
  | nothing => some .none
  | range a b => some (.ranges [(a.toNat, b.toNat)])
  | named negated r => some (.complementIf negated (.anyCaseIf anyCase (.ranges r)))
  | shorthand letter => some (shorthandClass letter)
  | property negated name => name.meaning?.map fun s => .complementIf negated (.anyCaseIf anyCase s)
  | bracket negated item => (item.meaning? anyCase).map fun s =>
    .complementIf negated (.anyCaseIf anyCase s)
  | union items => ClassItem.unionMeaning? anyCase items
  | operation op a b => do
    return op.apply (.anyCaseIf anyCase (← a.meaning? anyCase))
      (.anyCaseIf anyCase (← b.meaning? anyCase))

/-- The set that some classes stand for together. -/
def ClassItem.unionMeaning? (anyCase : Bool) : List ClassItem → Option CharClass
  | [] => some .none
  | item :: items =>
    return .union (← item.meaning? anyCase) (← ClassItem.unionMeaning? anyCase items)

end

/-- A pattern with what it leaves to those after it: the flags in force and the number of groups so
far. -/
structure Resolved where
  pattern : Regular
  flags : Flags
  groups : Nat

mutual

/-- The meaning of a plain pattern. -/
def Plain.resolve? (f : Flags) (groups : Nat) : Plain → Option Resolved
  | empty => some ⟨.empty, f, groups⟩
  | flags change => (f.change? change).map fun f => ⟨.empty, f, groups⟩
  | char c => some ⟨.one (.anyCaseIf f.anyCase (.single c)), f, groups⟩
  | any => some ⟨.one (.complement (if f.newLines then .none else .single '\n')), f, groups⟩
  | lineStart => some ⟨.place (if f.lines then .lineStart else .textStart), f, groups⟩
  | lineEnd => some ⟨.place (if f.lines then .lineEnd else .textEnd), f, groups⟩
  | place t => some ⟨.place t, f, groups⟩
  | item i => (i.meaning? f.anyCase).map fun s => ⟨.one s, f, groups⟩
  | repeated p least most greedy => (p.resolve? f groups).map fun r =>
      { r with pattern := .repeated r.pattern least most (greedy != f.lazyFirst) }
  | group p => (p.resolve? f (groups + 1)).map fun r => ⟨.group (groups + 1) r.pattern, f, r.groups⟩
  | enclosed change p => do
    let r ← p.resolve? (← f.change? change) groups
    return { r with flags := f }
  | alternation ps => Plain.resolveChoice? f groups ps
  | sequence ps => Plain.resolveSequence? f groups ps

/-- The meaning of alternatives. -/
def Plain.resolveChoice? (f : Flags) (groups : Nat) : List Plain → Option Resolved
  | [] => some ⟨.empty, f, groups⟩
  | [p] => p.resolve? f groups
  | p :: ps => do
    let a ← p.resolve? f groups
    let b ← Plain.resolveChoice? a.flags a.groups ps
    return { b with pattern := .choice a.pattern b.pattern }

/-- The meaning of parts in a row. -/
def Plain.resolveSequence? (f : Flags) (groups : Nat) : List Plain → Option Resolved
  | [] => some ⟨.empty, f, groups⟩
  | [p] => p.resolve? f groups
  | p :: ps => do
    let a ← p.resolve? f groups
    let b ← Plain.resolveSequence? a.flags a.groups ps
    return { b with pattern := .sequence a.pattern b.pattern }

end

end ApiContract.Pattern
