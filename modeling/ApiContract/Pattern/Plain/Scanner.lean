import ApiContract.Pattern.Plain.Basic
import ApiContract.Text.Blank

/-!
# Pattern/Plain/Scanner — the text of a pattern as it is read

A scanner goes over the text of a pattern.  While blanks do not count it passes over them and over
comments, which run from a number sign to the end of the line.
-/

namespace ApiContract.Pattern

/-- Why a text is no pattern of the plain grammar. -/
inductive Refusal where
  /-- The text is wrong. -/
  | wrong
  /-- The text asks for what only the wide grammar has. -/
  | beyond
  /-- A control character is written by a letter; so many characters are left from its backslash
  on. -/
  | control (left : Nat)
  deriving DecidableEq

/-- What has been read of a pattern and what is left. -/
structure Scan where
  text : List Char
  /-- Whether blanks do not count. -/
  spaced : Bool := false
  /-- The names of the groups. -/
  names : List (List Char) := []
  /-- The shorthand classes, the last one first: how many characters are left after each, and its
  letter. -/
  shorthands : List (Nat × Char) := []
  /-- Whether a bell is written by its letter outside brackets. -/
  bell : Bool := false

/-- A step of reading. -/
abbrev Scanner := StateT Scan (Except Refusal)

/-- The text after blanks and comments; `inside` is whether it begins within a comment. -/
def passBlanks (inside : Bool) : List Char → List Char
  | [] => []
  | c :: rest =>
    if inside then passBlanks (c ≠ '\n') rest
    else if c = '#' then passBlanks true rest
    else if Text.isBlank c then passBlanks false rest
    else c :: rest

/-- The text after blanks and comments where they do not count. -/
def passSpace (spaced : Bool) (text : List Char) : List Char :=
  if spaced then passBlanks false text else text

/-- The longest run of characters that satisfy `p`, blanks after each passed over, and the text
after it. -/
def spacedRun (spaced : Bool) (p : Char → Bool) : Nat → List Char → List Char × List Char
  | fuel + 1, c :: rest =>
    if p c then
      let (cs, after) := spacedRun spaced p fuel (passSpace spaced rest)
      (c :: cs, after)
    else ([], c :: rest)
  | _, text => ([], text)

/-- The first character that counts after one character, as far as a look ahead can tell: within a
comment any character that is no blank is taken for it. -/
def peekPast (spaced : Bool) (text : List Char) : Option Char :=
  let rest := text.drop 1
  if spaced then
    match go false rest with
    | some c => some c
    | none => rest.head?
  else rest.head?
where
  /-- The first character that is no blank, a number sign passed over once. -/
  go (inside : Bool) : List Char → Option Char
    | [] => none
    | c :: cs =>
      if Text.isBlank c then go inside cs
      else if !inside && c = '#' then go true cs
      else some c

namespace Scanner

/-- Refuse the text. -/
def deny {α : Type} (r : Refusal) : Scanner α := throw r

/-- The text that is left. -/
def left : Scanner (List Char) := return (← get).text

/-- Whether blanks do not count. -/
def isSpaced : Scanner Bool := return (← get).spaced

/-- Go on at a text. -/
def moveTo (text : List Char) : Scanner Unit := modify fun s => { s with text }

/-- Go on at a text after its blanks. -/
def moveToNext (text : List Char) : Scanner Unit :=
  modify fun s => { s with text := passSpace s.spaced text }

/-- Pass over blanks. -/
def skipSpace : Scanner Unit := do moveToNext (← left)

/-- The next character, which must be there. -/
def peek : Scanner Char := do
  match ← left with
  | c :: _ => return c
  | [] => deny .wrong

/-- Pass over one character. -/
def bump : Scanner Unit := modify fun s => { s with text := s.text.drop 1 }

/-- Pass over one character and the blanks after it. -/
def bumpSpace : Scanner Unit := do moveToNext ((← left).drop 1)

end Scanner

end ApiContract.Pattern
