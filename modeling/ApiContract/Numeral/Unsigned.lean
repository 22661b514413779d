import ApiContract.Numeral.Digits

/-!
# Numeral/Unsigned — decimal integers without sign

Digits, at least one, after an optional plus; leading zeros do not matter, but the value must stay
below a limit.
-/

namespace ApiContract

/-- The integer below `limit` that a text writes. -/
def unsigned? (limit : Nat) (s : String) : Option Nat :=
  let digits := match s.toList with
    | '+' :: cs => cs
    | cs => cs
  (digitsValue? 10 digits).filter (· < limit)

end ApiContract
