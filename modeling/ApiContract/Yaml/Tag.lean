import ApiContract.Yaml.FlowScalar

/-!
# Yaml/Tag — tags

A tag is bytes, since escapes in it may write any.  Those that begin with an exclamation mark are
names of the document's own; of the others only the ones for booleans, integers, floats and null
decide what a scalar is, and every other one makes it a text.
-/

namespace ApiContract.Yaml

/-- A tag. -/
abbrev Tag := List UInt8

namespace Tag

/-- The bytes of a text. -/
def ofText (s : String) : Tag := s.toUTF8.toList

/-- What a tag says of its value. -/
inductive Sense where
  /-- A name of the document's own; absent where its bytes are no text. -/
  | custom (name : Option String)
  | bool | integer | float | null
  | other
  deriving DecidableEq

/-- The handle of the tags that every document shares. -/
def shared : Tag := ofText "tag:yaml.org,2002:"

/-- What a tag says of its value. -/
def sense (t : Tag) : Sense :=
  if startsWith then
    let name := if t.length = 1 then t else t.drop 1
    .custom (String.fromUTF8? ⟨name.toArray⟩)
  else if t = shared ++ ofText "bool" then .bool
  else if t = shared ++ ofText "int" then .integer
  else if t = shared ++ ofText "float" then .float
  else if t = shared ++ ofText "null" then .null
  else .other
where
  startsWith : Bool := t.head? == some '!'.toUInt8

/-- The handles a document may use without declaring them. -/
def defaultHandles : List (String × Tag) := [("!", ofText "!"), ("!!", shared)]

/-- The characters of a tag besides escapes; brackets and commas only where it is told. -/
def isUriChar (brackets : Bool) (c : Char) : Bool :=
  isWord c || ";/?:@&=+$.!~*'()".toList.contains c || (brackets && (c = ',' || c = '[' || c = ']'))

/-- How many bytes follow the first byte of a character. -/
def trailing? (octet : Nat) : Option Nat :=
  if octet < 0x80 then some 0
  else if 0xC0 ≤ octet && octet < 0xE0 then some 1
  else if 0xE0 ≤ octet && octet < 0xF0 then some 2
  else if 0xF0 ≤ octet && octet < 0xF8 then some 3
  else none

/-- The byte an escape writes. -/
def octet? (a b : Char) : Option Nat := do return (← hexValue? a) * 16 + (← hexValue? b)

/-- The bytes of a tag's characters and escapes, and the text after them; `pending` bytes of a
character are still to come. -/
def uri (brackets : Bool) (pending : Nat) : List Char → Option (Tag × List Char)
  | '%' :: a :: b :: rest => do
    let octet ← octet? a b
    let pending ←
      if pending = 0 then trailing? octet
      else if 0x80 ≤ octet && octet < 0xC0 then some (pending - 1)
      else none
    let (bytes, rest) ← uri brackets pending rest
    return (octet.toUInt8 :: bytes, rest)
  | [] => if pending = 0 then some ([], []) else none
  | c :: rest =>
    if pending ≠ 0 || c = '%' then none
    else if isUriChar brackets c then (uri brackets 0 rest).map fun r => (c.toUInt8 :: r.1, r.2)
    else some ([], c :: rest)

/-- The same, at least one byte; a zero byte ends what counts. -/
def uri? (brackets : Bool) (text : List Char) : Option (Tag × List Char) := do
  let (bytes, rest) ← uri brackets 0 text
  guard !bytes.isEmpty
  return (bytes.takeWhile (· ≠ 0), rest)

/-- A tag as it is written: a handle and what follows it. -/
structure Written where
  handle : String
  suffix : Tag

/-- The bytes of word characters. -/
def ofWord (word : List Char) : Tag := word.map Char.toUInt8

/-- The tag from after its exclamation mark, and the text after the tag: between angle brackets,
with a handle, or with neither.  The lone mark is a whole tag. -/
def read (text : List Char) : Option (Written × List Char) :=
  match text with
  | '<' :: rest => do
    let (bytes, rest) ← uri? true rest
    guard (Yaml.startsWith '>' rest)
    return (⟨"", bytes⟩, rest.drop 1)
  | _ =>
    let word := text.takeWhile isWord
    match text.dropWhile isWord with
    | '!' :: rest => do
      let (bytes, rest) ← uri? false rest
      return (⟨String.ofList ('!' :: word ++ ['!']), bytes⟩, rest)
    | rest => do
      let (bytes, rest) ← uri false 0 rest
      let suffix := ofWord word ++ bytes.takeWhile (· ≠ 0)
      return (if suffix.isEmpty then ⟨"", ofText "!"⟩ else ⟨"!", suffix⟩, rest)

/-- The tag a written one stands for, by declared handles and then the default ones. -/
def resolve? (handles : List (String × Tag)) (t : Written) : Option Tag :=
  if t.handle.isEmpty then some t.suffix
  else ((handles ++ defaultHandles).lookup t.handle).map (· ++ t.suffix)

/-- The handle of a declaration, from after its exclamation mark, and the text after it. -/
def readHandle (text : List Char) : Option (String × List Char) :=
  let word := text.takeWhile isWord
  match word, text.dropWhile isWord with
  | _, '!' :: rest => some (String.ofList ('!' :: word ++ ['!']), rest)
  | [], rest => some ("!", rest)
  | _, _ => none

end Tag

end ApiContract.Yaml
