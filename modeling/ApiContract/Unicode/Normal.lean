import ApiContract.Unicode.CombiningClass
import ApiContract.Unicode.Composite

/-!
# Unicode/Normal — the composed normal form

Texts that look alike have one normal form: composites are taken apart, marks put into the order of their
classes, and what can be composed is composed.
-/

namespace ApiContract.Unicode

/-- The characters that one is made of; composites are nested at most `fuel` deep. -/
def decomposeWith : Nat → Nat → List Nat
  | 0, n => [n]
  | fuel + 1, n => match parts? n with
    | some (a, b) => decomposeWith fuel a ++ decomposeWith fuel b
    | none => [n]

/-- The characters that one is made of. -/
def decompose (n : Nat) : List Nat := decomposeWith 8 n

/-- Put a character behind those before it, the last of which comes first: a mark goes before the marks of
higher classes. -/
def insertMark (class_ n : Nat) : List Nat → List Nat
  | [] => [n]
  | m :: before =>
    if class_ ≠ 0 && class_ < combiningClass m then m :: insertMark class_ n before else n :: m :: before

/-- The characters with their marks in the order of their classes. -/
def reorder (codes : List Nat) : List Nat :=
  (codes.foldl (fun before n => insertMark (combiningClass n) n before) []).reverse

/-- Compose characters on from one that marks go with; `between` holds the marks since then, the last one
first. -/
def composeFrom (start : Nat) (between : List Nat) : List Nat → List Nat
  | [] => start :: between.reverse
  | n :: rest =>
    let class_ := combiningClass n
    let isBlocked := between.head?.any fun m => class_ ≤ combiningClass m
    match if isBlocked then none else composite? start n with
    | some c => composeFrom c between rest
    | none =>
      if class_ = 0 then start :: between.reverse ++ composeFrom n [] rest
      else composeFrom start (n :: between) rest

/-- Compose characters as far as possible. -/
def compose : List Nat → List Nat
  | [] => []
  | n :: rest => if combiningClass n = 0 then composeFrom n [] rest else n :: compose rest

/-- **The composed normal form** of a text, by code points. -/
def normalize (codes : List Nat) : List Nat := compose (reorder (codes.flatMap decompose))

end ApiContract.Unicode
