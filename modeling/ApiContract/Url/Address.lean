import ApiContract.Url.Escape

/-!
# Url/Address — numeric hosts

An address of version 4 is up to four numbers, each decimal, octal after a zero or hexadecimal after
`0x`, the last one filling what the others leave.  One of version 6 is eight groups of hexadecimal
digits; a double colon stands for one or more groups of zero, and the last two groups may be written
as an address of version 4.
-/

namespace ApiContract.Url

/-- The parts of a list between separators. -/
def splitOn {α : Type} [DecidableEq α] (separator : α) : List α → List (List α)
  | [] => [[]]
  | c :: rest => match splitOn separator rest with
    | part :: parts => if c = separator then [] :: part :: parts else (c :: part) :: parts
    | [] => [[c]]

/-! ## Version 4 -/

/-- A number of an address of version 4; a bare mark of the base is zero. -/
def part4? (text : List Char) : Option Nat :=
  let digits (base : Nat) (rest : List Char) : Option Nat :=
    if rest.isEmpty then some 0 else digitsValue? base rest
  match text with
  | '0' :: 'x' :: rest | '0' :: 'X' :: rest => digits 16 rest
  | '0' :: c :: rest => digits 8 (c :: rest)
  | text => digitsValue? 10 text

/-- The parts of a host between dots, an empty one at the end left out. -/
def parts4 (host : List Char) : List (List Char) :=
  let parts := splitOn '.' host
  if parts.getLast? == some [] then parts.dropLast else parts

/-- Whether a host is meant as an address of version 4: its last part is a number. -/
def endsInNumber (host : List Char) : Bool :=
  match (parts4 host).getLast? with
  | some last => (!last.isEmpty && last.all Char.isDigit) || (part4? last).isSome
  | none => false

/-- The address of version 4 that a host writes. -/
def address4? (host : List Char) : Option Nat := do
  let numbers ← (parts4 host).mapM part4?
  guard (numbers.length ≤ 4)
  let last ← numbers.getLast?
  let others := numbers.dropLast
  guard (others.all (· ≤ 255) && last < Nat.pow 256 (4 - others.length))
  return (others.foldl (fun n d => n * 256 + d) 0) * Nat.pow 256 (4 - others.length) + last

/-- The four numbers of an address of version 4. -/
def address4Text (n : Nat) : String :=
  ".".intercalate ([16777216, 65536, 256, 1].map fun unit => toString (n / unit % 256))

/-! ## Version 6 -/

/-- A group of at most four hexadecimal digits. -/
def group? (text : List Char) : Option Nat := if text.length ≤ 4 then digitsValue? 16 text else none

/-- A number below 256 without padding. -/
def octet? (text : List Char) : Option Nat :=
  if text.length > 1 && text.head? == some '0' then none
  else (digitsValue? 10 text).filter (· ≤ 255)

/-- The two groups of an address of version 4. -/
def tail4? (text : List Char) : Option (List Nat) :=
  match (splitOn '.' text).mapM octet? with
  | some [a, b, c, d] => some [a * 256 + b, c * 256 + d]
  | _ => none

/-- Groups between colons; the last may be an address of version 4 where that is told. -/
def groups? (mayEnd4 : Bool) : List (List Char) → Option (List Nat)
  | [] => some []
  | [last] => if mayEnd4 && last.contains '.' then tail4? last else (group? last).map ([·])
  | part :: parts => do return (← group? part) :: (← groups? mayEnd4 parts)

/-- The text before the first double colon, and the text after it. -/
def atDoubleColon? : List Char → Option (List Char × List Char)
  | ':' :: ':' :: rest => some ([], rest)
  | c :: rest => (atDoubleColon? rest).map fun r => (c :: r.1, r.2)
  | [] => none

/-- The eight groups of an address of version 6. -/
def address6? (text : List Char) : Option (List Nat) :=
  let groupsOf (mayEnd4 : Bool) (part : List Char) : Option (List Nat) :=
    if part.isEmpty then some [] else groups? mayEnd4 (splitOn ':' part)
  match atDoubleColon? text with
  | none => (groupsOf true text).filter (·.length = 8)
  | some (before, after) => do
    let first ← groupsOf false before
    let last ← groupsOf true after
    guard (first.length + last.length < 8)
    return first ++ List.replicate (8 - first.length - last.length) 0 ++ last

/-- The digits of a group. -/
def groupText (n : Nat) : String := String.ofList (Nat.toDigits 16 n)

/-- Where the first of the longest runs of zeros starts, and how long it is. -/
def longestZeros (groups : List Nat) : Nat × Nat :=
  (List.range groups.length).foldl (fun best i =>
    let run := ((groups.drop i).takeWhile (· = 0)).length
    if best.2 < run then (i, run) else best) (0, 0)

/-- The groups of an address of version 6, the first longest run of two or more zeros as a double
colon. -/
def address6Text (groups : List Nat) : String :=
  let join (gs : List Nat) : String := ":".intercalate (gs.map groupText)
  let (start, run) := longestZeros groups
  if run < 2 then join groups
  else join (groups.take start) ++ "::" ++ join (groups.drop (start + run))

end ApiContract.Url
