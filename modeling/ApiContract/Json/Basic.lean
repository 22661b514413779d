import ApiContract.Numeral.Binary64

/-!
# Json/Basic — JSON values whose objects keep their order

A number is an integer of 64 bits, signed or unsigned, or a binary64; `1` and `1.0` are different
values.  An object is its list of members in document order; `insert` keeps a key's first place and
takes its last value, so what the reader builds has distinct keys.
-/

namespace ApiContract

/-- The integers a JSON number holds exactly: those of 64 bits, signed or unsigned. -/
def Json.Fits (n : Int) : Prop := -0x8000000000000000 ≤ n ∧ n < 0x10000000000000000

instance (n : Int) : Decidable (Json.Fits n) := inferInstanceAs (Decidable (_ ∧ _))

/-- The integers of 64 bits with sign. -/
abbrev Signed64 := { n : Int // -0x8000000000000000 ≤ n ∧ n < 0x8000000000000000 }

/-- The integers of 64 bits without sign. -/
abbrev Unsigned64 := { n : Nat // n < 0x10000000000000000 }

/-- A JSON number. -/
inductive Json.Number where
  | int (n : Int) (fits : Json.Fits n)
  | float (x : Binary64)
  deriving DecidableEq

/-- A JSON value. -/
inductive Json where
  | null
  | bool (b : Bool)
  | number (n : Json.Number)
  | string (s : String)
  | array (items : List Json)
  | object (members : List (String × Json))

/-- The members of an object, in order. -/
abbrev Members := List (String × Json)

namespace Members

/-- The keys in order. -/
def keys (ms : Members) : List String := ms.map (·.1)

/-- Whether a member has the key. -/
def has (ms : Members) (key : String) : Bool := ms.keys.contains key

/-- The value under a key. -/
def get? (ms : Members) (key : String) : Option Json := ms.lookup key

/-- Write a value under a key: in its place if the key is there, else at the end. -/
def insert (ms : Members) (key : String) (value : Json) : Members :=
  if ms.has key then ms.map fun m => if m.1 == key then (key, value) else m
  else ms ++ [(key, value)]

end Members

namespace Json

instance : Inhabited Json := ⟨null⟩

/-- An integer that fits. -/
def ofInt? (n : Int) : Option Json :=
  if h : Fits n then some (number (.int n h)) else none

/-- An integer of 64 bits with sign. -/
def ofSigned (n : Signed64) : Json :=
  number (.int n.1 ⟨n.2.1, Int.lt_trans n.2.2 (by decide)⟩)

/-- An integer of 64 bits without sign. -/
def ofUnsigned (n : Unsigned64) : Json :=
  number (.int n.1 ⟨Int.le_trans (by decide) (Int.natCast_nonneg n.1), Int.ofNat_lt.2 n.2⟩)

/-- A natural number; one beyond 64 bits becomes the nearest binary64. -/
def ofNat (n : Nat) : Json := (ofInt? n).getD (number (.float (Binary64.ofInt n)))

/-- The text of a string value. -/
def asString? : Json → Option String
  | string s => some s
  | _ => none

/-- The flag of a boolean value. -/
def asBool? : Json → Option Bool
  | bool b => some b
  | _ => none

/-- The elements of an array. -/
def asArray? : Json → Option (List Json)
  | array items => some items
  | _ => none

/-- The members of an object. -/
def asObject? : Json → Option Members
  | object ms => some ms
  | _ => none

/-- An integer of 64 bits with sign. -/
def asSigned? : Json → Option Signed64
  | number (.int n fits) => if h : n < 0x8000000000000000 then some ⟨n, fits.1, h⟩ else none
  | _ => none

/-- An integer of 64 bits without sign. -/
def asUnsigned? : Json → Option Unsigned64
  | number (.int n fits) => if h : 0 ≤ n then some ⟨n.toNat, (Int.toNat_lt h).2 fits.2⟩ else none
  | _ => none

/-- A number as a binary64; an integer is rounded to the nearest. -/
def asFloat? : Json → Option Binary64
  | number (.int n _) => some (Binary64.ofInt n)
  | number (.float x) => some x
  | _ => none

mutual

/-- Decides equality of values, member order included. -/
def decEq : (a b : Json) → Decidable (a = b)
  | null, null => isTrue rfl
  | bool a, bool b => if h : a = b then isTrue (h ▸ rfl) else isFalse fun e => h (by injection e)
  | number a, number b =>
    if h : a = b then isTrue (h ▸ rfl) else isFalse fun e => h (by injection e)
  | string a, string b =>
    if h : a = b then isTrue (h ▸ rfl) else isFalse fun e => h (by injection e)
  | array a, array b => match decEqList a b with
    | isTrue h => isTrue (h ▸ rfl)
    | isFalse h => isFalse fun e => h (by injection e)
  | object a, object b => match decEqMembers a b with
    | isTrue h => isTrue (h ▸ rfl)
    | isFalse h => isFalse fun e => h (by injection e)
  | null, bool _ | null, number _ | null, string _ | null, array _ | null, object _ => isFalse nofun
  | bool _, null | bool _, number _ | bool _, string _ | bool _, array _ | bool _, object _ =>
    isFalse nofun
  | number _, null | number _, bool _ | number _, string _ | number _, array _
  | number _, object _ =>
    isFalse nofun
  | string _, null | string _, bool _ | string _, number _ | string _, array _
  | string _, object _ =>
    isFalse nofun
  | array _, null | array _, bool _ | array _, number _ | array _, string _ | array _, object _ =>
    isFalse nofun
  | object _, null | object _, bool _ | object _, number _ | object _, string _
  | object _, array _ =>
    isFalse nofun

/-- Decides equality of element lists. -/
def decEqList : (a b : List Json) → Decidable (a = b)
  | [], [] => isTrue rfl
  | x :: a, y :: b => match decEq x y, decEqList a b with
    | isTrue h, isTrue k => isTrue (h ▸ k ▸ rfl)
    | isFalse h, _ => isFalse fun e => h (List.cons.inj e).1
    | _, isFalse k => isFalse fun e => k (List.cons.inj e).2
  | [], _ :: _ | _ :: _, [] => isFalse nofun

/-- Decides equality of member lists. -/
def decEqMembers : (a b : List (String × Json)) → Decidable (a = b)
  | [], [] => isTrue rfl
  | (k, x) :: a, (l, y) :: b => match decEq x y, decEqMembers a b with
    | isTrue h, isTrue t =>
      if e : k = l then isTrue (h ▸ t ▸ e ▸ rfl)
      else isFalse fun q => e (Prod.mk.inj (List.cons.inj q).1).1
    | isFalse h, _ => isFalse fun q => h (Prod.mk.inj (List.cons.inj q).1).2
    | _, isFalse t => isFalse fun q => t (List.cons.inj q).2
  | [], _ :: _ | _ :: _, [] => isFalse nofun

end

instance : DecidableEq Json := decEq

end Json

/-- Numbers as the same value: integers by value, floats numerically, never one with the other. -/
def Json.Number.same : Json.Number → Json.Number → Bool
  | .int a _, .int b _ => a == b
  | .float a, .float b => a.same b
  | _, _ => false

/-- The exact mathematical value of a number. -/
def Json.Number.toRat : Json.Number → Rat
  | .int n _ => n
  | .float x => x.toRat

namespace Json

mutual

/-- Equality of documents: the order of members does not matter, nor does the sign of a zero
float. -/
def same : Json → Json → Bool
  | null, null => true
  | bool a, bool b => a == b
  | number a, number b => a.same b
  | string a, string b => a == b
  | array a, array b => sameItems a b
  | object a, object b => a.length == b.length && sameMembers a b
  | _, _ => false

/-- Element by element. -/
def sameItems : List Json → List Json → Bool
  | [], [] => true
  | x :: a, y :: b => same x y && sameItems a b
  | _, _ => false

/-- Every member of the first list has its equal under the same key of the second. -/
def sameMembers : List (String × Json) → Members → Bool
  | [], _ => true
  | (k, x) :: a, b => (match b.get? k with | some y => same x y | none => false) && sameMembers a b

end

end Json

end ApiContract
