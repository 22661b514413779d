import ApiContract.Unicode.Fold
import ApiContract.Unicode.Runs

/-!
# Unicode/CharClass — sets of characters

A set is ranges of code points or made of sets by the operations on them.
-/

namespace ApiContract

/-- A set of characters. -/
inductive CharClass where
  | ranges (r : CodeRanges)
  | union (a b : CharClass)
  | intersection (a b : CharClass)
  | difference (a b : CharClass)
  | symmetricDifference (a b : CharClass)
  | complement (a : CharClass)
  /-- All that differ from a member in case only. -/
  | anyCase (a : CharClass)

namespace CharClass

/-- The set without characters. -/
def none : CharClass := ranges []

/-- The set of one character. -/
def single (c : Char) : CharClass := ranges [(c.toNat, c.toNat)]

/-- The set that a table of ranges lists. -/
def ofTable (table : List String) : CharClass := ranges (Unicode.readRanges table)

/-- The set or all else. -/
def complementIf (flag : Bool) (a : CharClass) : CharClass := if flag then complement a else a

/-- The set, in any case if so asked. -/
def anyCaseIf (flag : Bool) (a : CharClass) : CharClass := if flag then anyCase a else a

/-- Whether a code point is in a set. -/
def contains : CharClass → Nat → Bool
  | ranges r, n => r.contains n
  | union a b, n => a.contains n || b.contains n
  | intersection a b, n => a.contains n && b.contains n
  | difference a b, n => a.contains n && !b.contains n
  | symmetricDifference a b, n => a.contains n != b.contains n
  | complement a, n => !a.contains n
  | anyCase a, n => (Unicode.orbit n).any a.contains

/-- The parts of a union, or the set itself. -/
def unionAll : List CharClass → CharClass := List.foldr union none

end CharClass

end ApiContract
