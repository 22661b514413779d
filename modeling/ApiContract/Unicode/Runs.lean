/-!
# Unicode/Runs — tables of code points

Tables are texts.  A table of ranges lists code points and closed ranges in hexadecimal, in ascending order.
A table of runs lists where each run of code points of one value begins, in hexadecimal, followed by the
value, which begins with no hexadecimal digit; a run reaches up to the next.
-/

namespace ApiContract

/-- Closed ranges of code points. -/
abbrev CodeRanges := List (Nat × Nat)

/-- Whether a code point lies in one of the ranges. -/
def CodeRanges.contains (ranges : CodeRanges) (n : Nat) : Bool := ranges.any fun r => r.1 ≤ n && n ≤ r.2

namespace Unicode

/-- The last code point. -/
def lastCode : Nat := 0x10FFFF

/-- The value of a hexadecimal digit in lower case. -/
def lowerHex? (c : Char) : Option Nat :=
  if c.isDigit then some (c.toNat - '0'.toNat)
  else if 'a' ≤ c ∧ c ≤ 'f' then some (c.toNat - 'a'.toNat + 10)
  else none

/-- Read hexadecimal digits on from `n`. -/
def readCode (n : Nat) : List Char → Nat × List Char
  | [] => (n, [])
  | c :: cs => match lowerHex? c with
    | some d => readCode (n * 16 + d) cs
    | none => (n, c :: cs)

/-- The words of a line. -/
def words : List Char → List (List Char)
  | [] => [[]]
  | c :: cs => match words cs with
    | [] => [[c]]
    | w :: ws => if c = ' ' then [] :: w :: ws else (c :: w) :: ws

/-- The words of a table. -/
def tableWords (table : List String) : List (List Char) := table.flatMap fun line => words line.toList

/-- The range that a word writes. -/
def readRange (word : List Char) : Nat × Nat :=
  match readCode 0 word with
  | (first, _ :: rest) => (first, (readCode 0 rest).1)
  | (first, []) => (first, first)

/-- The ranges of a table. -/
def readRanges (table : List String) : CodeRanges := (tableWords table).map readRange

/-- Runs: the first code point and the value of each. -/
abbrev Runs := List (Nat × String)

/-- The runs of a table. -/
def readRuns (table : List String) : Runs :=
  (tableWords table).map fun word => let r := readCode 0 word; (r.1, String.ofList r.2)

/-- The ranges of the runs whose value passes a test. -/
def Runs.rangesOf (keep : String → Bool) : Runs → CodeRanges
  | [] => []
  | [(first, value)] => if keep value then [(first, lastCode)] else []
  | (first, value) :: (next, v) :: rest =>
    let more := Runs.rangesOf keep ((next, v) :: rest)
    if keep value then (first, next - 1) :: more else more

/-- The value of the last run that begins at or before a code point. -/
def runValue {α : Type} (start : α) (runs : List (Nat × α)) (n : Nat) : α :=
  ((runs.takeWhile (·.1 ≤ n)).getLast?.map (·.2)).getD start

end Unicode

end ApiContract
