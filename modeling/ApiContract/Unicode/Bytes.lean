import ApiContract.Unicode.Runs

/-!
# Unicode/Bytes — ranges of characters as ranges of bytes

The bytes of the characters in a range are what some rows of byte ranges hold: each row says where each byte of
a character may lie.  After its first byte a character is written by digits to the base 64.
-/

namespace ApiContract.Unicode

/-- A row of byte ranges. -/
abbrev ByteRow := List (Nat × Nat)

/-- The digits after a byte that may be any. -/
def anyDigits (count : Nat) : ByteRow := List.replicate count (0x80, 0xBF)

/-- The rows of a range of numbers with so many digits to the base 64 after the first, which is written as a
byte on from `lead`. -/
def rowsOf (lead : Nat) : (digits first last : Nat) → List ByteRow
  | 0, a, b => [[(lead + a, lead + b)]]
  | n + 1, a, b =>
    let unit := Nat.pow 64 (n + 1)
    let x := a / unit
    let y := b / unit
    let below (digit a b : Nat) : List ByteRow :=
      (rowsOf 0x80 n a b).map ((lead + digit, lead + digit) :: ·)
    if x = y then below x (a % unit) (b % unit)
    else
      let startsFull := a % unit = 0
      let endsFull := b % unit = unit - 1
      let first := if startsFull then x else x + 1
      let past := if endsFull then y + 1 else y
      (if startsFull then [] else below x (a % unit) (unit - 1))
        ++ (if first < past then [(lead + first, lead + past - 1) :: anyDigits (n + 1)] else [])
        ++ (if endsFull then [] else below y 0 (b % unit))

/-- The characters of one, two, three and four bytes: their ranges, the digits after the first byte and where
that counts from. -/
def byteLengths : List (Nat × Nat × Nat × Nat) :=
  [(0, 0x7F, 0, 0), (0x80, 0x7FF, 1, 0xC0), (0x800, 0xD7FF, 2, 0xE0), (0xE000, 0xFFFF, 2, 0xE0),
   (0x10000, 0x10FFFF, 3, 0xF0)]

/-- The rows of byte ranges for ranges of characters. -/
def byteRows (r : CodeRanges) : List ByteRow :=
  r.flatMap fun (a, b) => byteLengths.flatMap fun (first, last, digits, lead) =>
    if max a first ≤ min b last then rowsOf lead digits (max a first) (min b last) else []

end ApiContract.Unicode
