/-!
# Yaml/Mark — characters and places of YAML text

Line breaks are told apart only where a scalar keeps them, so `normalBreaks` first makes every break
but the line and the paragraph separator a line feed.  A `Cursor` is the text still to be read with
its place.
-/

namespace ApiContract.Yaml

/-- The characters a text may hold. -/
def isPrintable (c : Char) : Bool :=
  let n := c.toNat
  n == 0x09 || n == 0x0A || n == 0x0D || (0x20 ≤ n && n ≤ 0x7E) || n == 0x85 ||
    (0xA0 ≤ n && n ≤ 0xD7FF)
    || (0xE000 ≤ n && n ≤ 0xFFFD) || 0x10000 ≤ n

/-- Spaces and tabs. -/
def isBlank (c : Char) : Bool := c = ' ' || c = '\t'

/-- The breaks of a text whose breaks are normal. -/
def isBreak (c : Char) : Bool := c = '\n' || c = '\u2028' || c = '\u2029'

/-- The characters of anchors, handles and the names of directives. -/
def isWord (c : Char) : Bool := c.isAlphanum || c = '_' || c = '-'

/-- One line feed for every carriage return, alone or before a line feed, and every next-line
character. -/
def normalBreaks : List Char → List Char
  | [] => []
  | '\r' :: '\n' :: rest => '\n' :: normalBreaks rest
  | c :: rest => (if c = '\r' || c = '\x85' then '\n' else c) :: normalBreaks rest

/-- Whether a word ends here: at a blank, a break or the end of the text. -/
def atGap : List Char → Bool
  | [] => true
  | c :: _ => isBlank c || isBreak c

/-- Whether a text begins with a character. -/
def startsWith (c : Char) (text : List Char) : Bool := text.head? == some c

/-- Whether a text begins with three of a character and a gap. -/
def startsTriple (c : Char) (text : List Char) : Bool :=
  text.take 3 == [c, c, c] && atGap (text.drop 3)

/-- Whether a text begins with the mark that starts a document or the one that ends it. -/
def startsMarker (text : List Char) : Bool := startsTriple '-' text || startsTriple '.' text

/-- A place: the lines before it and, on its line, the characters and their bytes in UTF-8. -/
structure Mark where
  line : Nat := 0
  column : Nat := 0
  bytes : Nat := 0

/-- The place after some characters of the line. -/
def Mark.past (m : Mark) (cs : List Char) : Mark :=
  { m with
    column := m.column + cs.length
    bytes := m.bytes + cs.foldl (fun n c => n + c.utf8Size) 0 }

/-- The start of the next line. -/
def Mark.newline (m : Mark) : Mark := { line := m.line + 1 }

/-- The text still to be read, and its place. -/
structure Cursor where
  mark : Mark := {}
  rest : List Char

/-- The cursor after some characters of its line. -/
def Cursor.skip (c : Cursor) (n : Nat) : Cursor := ⟨c.mark.past (c.rest.take n), c.rest.drop n⟩

/-- The cursor moved on along its line until `rest` is left. -/
def Cursor.upTo (c : Cursor) (rest : List Char) : Cursor :=
  ⟨c.mark.past (c.rest.take (c.rest.length - rest.length)), rest⟩

/-- The rest of a line that may only hold blanks and a comment, from the end of the line on. -/
def endOfLine? (text : List Char) : Option (List Char) :=
  let text := text.dropWhile isBlank
  let text := if startsWith '#' text then text.dropWhile (!isBreak ·) else text
  if text.head?.all isBreak then some text else none

end ApiContract.Yaml
