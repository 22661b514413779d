import ApiContract.Unicode.Property

/-!
# Pattern/Place — conditions on a place in a text

A place lies before a character of the text or at its end.
-/

namespace ApiContract.Pattern

/-- A condition on a place. -/
inductive PlaceTest where
  | textStart | textEnd | lineStart | lineEnd
  | wordBoundary | noWordBoundary | wordStart | wordEnd | wordStartHalf | wordEndHalf
  deriving DecidableEq

/-- Whether a word character stands at a place. -/
def isWordAt (text : Array Char) (i : Nat) : Bool :=
  match text[i]? with
  | some c => Unicode.wordClass.contains c.toNat
  | none => false

/-- Whether a word character stands before a place. -/
def isWordBefore (text : Array Char) (i : Nat) : Bool := 0 < i && isWordAt text (i - 1)

/-- Whether a place passes a test. -/
def passes (text : Array Char) (i : Nat) : PlaceTest → Bool
  | .textStart => i == 0
  | .textEnd => i == text.size
  | .lineStart => i == 0 || text[i - 1]? == some '\n'
  | .lineEnd => i == text.size || text[i]? == some '\n'
  | .wordBoundary => isWordBefore text i != isWordAt text i
  | .noWordBoundary => isWordBefore text i == isWordAt text i
  | .wordStart => !isWordBefore text i && isWordAt text i
  | .wordEnd => isWordBefore text i && !isWordAt text i
  | .wordStartHalf => !isWordBefore text i
  | .wordEndHalf => !isWordAt text i

end ApiContract.Pattern
