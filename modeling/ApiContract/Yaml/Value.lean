import ApiContract.Json.Basic
import ApiContract.Numeral.Shortest

/-!
# Yaml/Value — YAML values

A mapping keeps the order of its entries and may have any value as a key.  Numbers are integers of
64 bits, finite floats, the infinities and NaN; a tagged value is a value with the tag it was given.
-/

namespace ApiContract

/-- A YAML number. -/
inductive Yaml.Number where
  | int (n : Int) (fits : Json.Fits n)
  | float (x : Binary64)
  | infinity (negative : Bool)
  | nan

namespace Yaml.Number

/-- What tells a number from others: an integer, a float or the sign of an infinity, none for
NaN. -/
def key : Number → (Int ⊕ Binary64) ⊕ Option Bool
  | int n _ => .inl (.inl n)
  | float x => .inl (.inr x)
  | infinity negative => .inr (some negative)
  | nan => .inr none

/-- Numbers of the same key are the same. -/
theorem key_inj {a b : Number} : a.key = b.key ↔ a = b := by
  cases a <;> cases b <;> simp [key]

instance : DecidableEq Number := fun _ _ => decidable_of_iff _ key_inj

end Yaml.Number

/-- A YAML value. -/
inductive Yaml where
  | null
  | bool (b : Bool)
  | number (n : Yaml.Number)
  | string (s : String)
  | sequence (items : List Yaml)
  | mapping (entries : List (Yaml × Yaml))
  | tagged (tag : String) (value : Yaml)

namespace Yaml

instance : Inhabited Yaml := ⟨null⟩

/-- YAML floats leave the sign of a positive exponent out. -/
def floatForm : DecimalForm := ⟨false⟩

namespace Number

/-- The text of a number. -/
def text : Number → String
  | int n _ => toString n
  | float x => floatForm.text x
  | infinity false => ".inf"
  | infinity true => "-.inf"
  | nan => ".nan"

/-- The same number: integers by value, floats numerically, NaN as itself, never one kind with
another. -/
def same : Number → Number → Bool
  | float x, float y => x.same y
  | a, b => a == b

end Number

/-- A tag without the mark before its name. -/
def tagName (tag : String) : List Char :=
  match tag.toList with
  | '!' :: c :: name => c :: name
  | name => name

mutual

/-- The same value: mappings without regard to order, tags by their names. -/
def same : Yaml → Yaml → Bool
  | null, null => true
  | bool a, bool b => a == b
  | number a, number b => a.same b
  | string a, string b => a == b
  | sequence a, sequence b => sameItems a b
  | mapping a, mapping b => a.length == b.length && sameEntries a b
  | tagged s a, tagged t b => tagName s == tagName t && same a b
  | _, _ => false

/-- Element by element. -/
def sameItems : List Yaml → List Yaml → Bool
  | [], [] => true
  | x :: a, y :: b => same x y && sameItems a b
  | _, _ => false

/-- Every entry of the first list is among those of the second. -/
def sameEntries : List (Yaml × Yaml) → List (Yaml × Yaml) → Bool
  | [], _ => true
  | (k, x) :: a, b => b.any (fun e => same k e.1 && same x e.2) && sameEntries a b

end

/-- Whether a mapping has a key. -/
def hasKey (entries : List (Yaml × Yaml)) (key : Yaml) : Bool := entries.any fun e => key.same e.1

end Yaml

end ApiContract
