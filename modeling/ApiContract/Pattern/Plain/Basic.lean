import ApiContract.Pattern.Place
import ApiContract.Pattern.Property

/-!
# Pattern/Plain/Basic — patterns of the plain grammar

The plain grammar has no look-around and no back references.  A pattern is kept as it is written,
its flags and names still to be given their meaning.
-/

namespace ApiContract.Pattern

/-- The operations on sets in a bracketed class. -/
inductive SetOperation where
  | intersection | difference | symmetricDifference
  deriving DecidableEq

/-- A class of characters as it is written. -/
inductive ClassItem where
  | nothing
  | range (first last : Char)
  /-- A class of ASCII by its name. -/
  | named (negated : Bool) (r : CodeRanges)
  /-- One of the classes `d`, `s`, `w`, a capital for all else. -/
  | shorthand (letter : Char)
  | property (negated : Bool) (name : PropertyName)
  | bracket (negated : Bool) (item : ClassItem)
  | union (items : List ClassItem)
  | operation (op : SetOperation) (a b : ClassItem)

/-- Flags by their letters, in order, each switched on or off. -/
abbrev FlagChange := List (Char × Bool)

/-- A pattern of the plain grammar. -/
inductive Plain where
  | empty
  /-- A change of flags up to the end of the group. -/
  | flags (change : FlagChange)
  | char (c : Char)
  | any
  | lineStart
  | lineEnd
  | place (t : PlaceTest)
  | item (i : ClassItem)
  | repeated (p : Plain) (least : Nat) (most : Option Nat) (greedy : Bool)
  /-- A group whose match is kept. -/
  | group (p : Plain)
  /-- A group that only holds together, with a change of flags in it. -/
  | enclosed (change : FlagChange) (p : Plain)
  | alternation (ps : List Plain)
  | sequence (ps : List Plain)

mutual

/-- How deep a class is nested. -/
def ClassItem.depth : ClassItem → Nat
  | nothing | range _ _ | named _ _ | shorthand _ | property _ _ => 0
  | bracket _ item => item.depth + 1
  | union items => ClassItem.depths items + 1
  | operation _ a b => max a.depth b.depth + 1

/-- How deep the deepest of some classes is nested. -/
def ClassItem.depths : List ClassItem → Nat
  | [] => 0
  | item :: items => max item.depth (ClassItem.depths items)

end

mutual

/-- How deep a pattern is nested. -/
def Plain.depth : Plain → Nat
  | empty | flags _ | char _ | any | lineStart | lineEnd | place _ => 0
  | item i => i.depth
  | repeated p _ _ _ | group p | enclosed _ p => p.depth + 1
  | alternation ps | sequence ps => Plain.depths ps + 1

/-- How deep the deepest of some patterns is nested. -/
def Plain.depths : List Plain → Nat
  | [] => 0
  | p :: ps => max p.depth (Plain.depths ps)

end

/-- The deepest nesting that is read. -/
def depthLimit : Nat := 250

/-- The class that some items make, each to the left of the ones before it. -/
def ClassItem.ofReversed : List ClassItem → ClassItem
  | [] => nothing
  | [item] => item
  | items => union items.reverse

/-- The pattern that some parts make, each to the left of the ones before it. -/
def Plain.ofReversedParts : List Plain → Plain
  | [] => empty
  | [p] => p
  | ps => sequence ps.reverse

/-- The pattern that some alternatives make, each to the left of the ones before it. -/
def Plain.ofReversedBranches : List Plain → Plain
  | [] => empty
  | [p] => p
  | ps => alternation ps.reverse

end ApiContract.Pattern
