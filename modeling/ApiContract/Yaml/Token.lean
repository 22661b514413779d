import ApiContract.Yaml.BlockScalar
import ApiContract.Yaml.Tag

/-!
# Yaml/Token — the tokens of a YAML text

`Token.ofText?` reads a whole text.  Indentation shows as tokens that open and close blocks.  A key
of the short form is only known by the colon after it, so wherever one may start an empty group of
tokens is kept, which the colon fills.  Anchors are numbered and tags are resolved as they are met.
-/

namespace ApiContract.Yaml

/-- A token. -/
inductive Token where
  | directive
  | documentStart | documentEnd
  | blockSequenceStart | blockMappingStart | blockEnd
  | sequenceStart | sequenceEnd | mappingStart | mappingEnd
  | blockEntry | flowEntry | key | value
  | anchor (number : Nat)
  | link (number : Nat)
  | tag (t : Tag)
  | scalar (isPlain : Bool) (text : String)
  deriving DecidableEq

/-- A place where a key of the short form may have started. -/
structure PossibleKey where
  /-- The group of tokens kept for it. -/
  group : Nat
  mark : Mark
  /-- Whether nothing but a key may stand there. -/
  required : Bool

/-- Whether a key could still end at a place: on the line where it started, after at most 1024
bytes. -/
def PossibleKey.isFresh (k : PossibleKey) (m : Mark) : Bool :=
  m.line ≤ k.mark.line && m.bytes ≤ k.mark.bytes + 1024

/-- What has been read, and what it allows next. -/
structure Layout where
  groups : Array (List Token) := #[]
  /-- The columns of the open blocks, the innermost first. -/
  indents : List Nat := []
  possible : Option PossibleKey := none
  /-- The same of the surrounding brackets, one for each level, the innermost first. -/
  outer : List (Option PossibleKey) := []
  keyAllowed : Bool := true
  versioned : Bool := false
  handles : List (String × Tag) := []
  /-- The names bound so far and their numbers, the latest first. -/
  anchors : List (String × Nat) := []

namespace Layout

/-- Whether the place is within brackets. -/
def inFlow (l : Layout) : Bool := !l.outer.isEmpty

/-- The least column of a line that goes on with the innermost block. -/
def margin (l : Layout) : Nat := (l.indents.head?.map (· + 1)).getD 0

/-- A further token. -/
def emit (l : Layout) (t : Token) : Layout := { l with groups := l.groups.push [t] }

/-- Close the innermost blocks as long as their columns satisfy `p`; brackets keep all open. -/
def close (l : Layout) (p : Nat → Bool) : Layout :=
  if l.inFlow then l else
    { l with
      groups := l.groups.push (List.replicate (l.indents.takeWhile p).length .blockEnd)
      indents := l.indents.dropWhile p }

/-- Whether a block has to be opened for an entry in a column. -/
def opens (l : Layout) (column : Nat) : Bool := !l.inFlow && l.margin ≤ column

/-- The blocks after an entry in a column. -/
def indentsWith (l : Layout) (column : Nat) : List Nat :=
  if l.opens column then column :: l.indents else l.indents

/-- Open a block for an entry in a column where that has to be done. -/
def openBlock (l : Layout) (column : Nat) (start : Token) : Layout :=
  { l with
    groups := if l.opens column then l.groups.push [start] else l.groups
    indents := l.indentsWith column }

/-- Give up the possible key, which must not be required. -/
def dropKey (l : Layout) : Option Layout :=
  if l.possible.any (·.required) then none else some { l with possible := none }

/-- Keep a place for a key where one is allowed. -/
def keepKey (l : Layout) (m : Mark) : Option Layout :=
  if l.keyAllowed then do
    let l ← l.dropKey
    let required := !l.inFlow && l.indents.head? == some m.column
    return { l with groups := l.groups.push [], possible := some ⟨l.groups.size, m, required⟩ }
  else some l

/-- Give up the possible keys that cannot end here, none of which may be required. -/
def dropStale (l : Layout) (m : Mark) : Option Layout :=
  let stale (k : Option PossibleKey) : Bool := k.any fun k => k.required && !k.isFresh m
  if (l.possible :: l.outer).any stale then none else
    let fresh (k : Option PossibleKey) : Option PossibleKey := k.filter (·.isFresh m)
    some { l with possible := fresh l.possible, outer := l.outer.map fresh }

/-! ## One token -/

/-- A layout and where to read on. -/
abbrev Read := Option (Layout × Cursor)

/-- A bracket that opens a level. -/
def openBracket (l : Layout) (c : Cursor) (t : Token) : Read := do
  let l ← l.keepKey c.mark
  return ({ l.emit t with outer := l.possible :: l.outer, possible := none, keyAllowed := true },
      c.skip 1)

/-- A bracket that closes a level. -/
def closeBracket (l : Layout) (c : Cursor) (t : Token) : Read := do
  let l ← l.dropKey
  let l := match l.outer with
    | k :: outer => { l with possible := k, outer }
    | [] => l
  return ({ l.emit t with keyAllowed := false }, c.skip 1)

/-- A comma between brackets. -/
def comma (l : Layout) (c : Cursor) : Read := do
  let l ← l.dropKey
  return ({ l.emit .flowEntry with keyAllowed := true }, c.skip 1)

/-- The hyphen of a block's entry. -/
def hyphen (l : Layout) (c : Cursor) : Read := do
  guard (l.inFlow || l.keyAllowed)
  let l ← (l.openBlock c.mark.column .blockSequenceStart).dropKey
  return ({ l.emit .blockEntry with keyAllowed := true }, c.skip 1)

/-- The question mark of a key of the long form. -/
def question (l : Layout) (c : Cursor) : Read := do
  guard (l.inFlow || l.keyAllowed)
  let l ← (l.openBlock c.mark.column .blockMappingStart).dropKey
  return ({ l.emit .key with keyAllowed := !l.inFlow }, c.skip 1)

/-- The colon before a value: it makes the possible key a key. -/
def colon (l : Layout) (c : Cursor) : Read :=
  match l.possible with
  | some k =>
    let start : List Token := if l.opens k.mark.column then [.blockMappingStart] else []
    let filled := { l with
      groups := l.groups.setIfInBounds k.group (start ++ [Token.key])
      indents := l.indentsWith k.mark.column
      possible := none
      keyAllowed := false }
    some (filled.emit .value, c.skip 1)
  | none => do
    guard (l.inFlow || l.keyAllowed)
    let l := l.openBlock c.mark.column .blockMappingStart
    return ({ l.emit .value with keyAllowed := !l.inFlow }, c.skip 1)

/-- The characters that may follow the name of an anchor at once. -/
def mayFollowName (text : List Char) : Bool :=
  atGap text || text.head?.any fun c => "?:,]\x7d%@\x60".toList.contains c

/-- A name after the mark of an anchor or of a link to one.  An anchor's number is the count of
different names before it, and a link's the one its name has here. -/
def name (l : Layout) (c : Cursor) (isLink : Bool) : Read := do
  let l ← l.keepKey c.mark
  let text := c.rest.drop 1
  let name := String.ofList (text.takeWhile isWord)
  let rest := text.dropWhile isWord
  guard (!name.isEmpty && mayFollowName rest)
  let l := { l with keyAllowed := false }
  if isLink then do
    let number ← l.anchors.lookup name
    return (l.emit (.link number), c.upTo rest)
  else
    let number := (l.anchors.map (·.1)).eraseDups.length
    return ({ l.emit (.anchor number) with anchors := (name, number) :: l.anchors }, c.upTo rest)

/-- A tag. -/
def tag (l : Layout) (c : Cursor) : Read := do
  let l ← l.keepKey c.mark
  let (written, rest) ← Tag.read (c.rest.drop 1)
  guard (atGap rest || (l.inFlow && startsWith ',' rest))
  let t ← Tag.resolve? l.handles written
  return ({ l.emit (.tag t) with keyAllowed := false }, c.upTo rest)

/-- A literal or folded scalar. -/
def block (l : Layout) (c : Cursor) (literal : Bool) : Read := do
  let l ← l.dropKey
  let (text, next) ← blockScalar literal l.margin (c.skip 1)
  return ({ l.emit (.scalar false text) with keyAllowed := true }, next)

/-- A quoted scalar. -/
def quoted (l : Layout) (c : Cursor) (single : Bool) : Read := do
  let l ← l.keepKey c.mark
  let c := c.skip 1
  let (text, next) ← (if single then singleQuoted else doubleQuoted) .empty c.mark [] c.rest
  return ({ l.emit (.scalar false text) with keyAllowed := false }, next)

/-- A plain scalar; after breaks a key may follow. -/
def plainScalar (l : Layout) (c : Cursor) : Read := do
  let l ← l.keepKey c.mark
  let s ← plain l.inFlow l.margin .empty c.mark [] c.rest
  return ({ l.emit (.scalar true s.text) with keyAllowed := s.broken }, s.next)

/-- The mark that starts or ends a document. -/
def marker (l : Layout) (c : Cursor) (t : Token) : Read := do
  let l ← (l.close fun _ => true).dropKey
  return ({ l.emit t with keyAllowed := false }, c.skip 3)

/-- A number of a version, of at most nine digits, and the text after it. -/
def versionNumber? (text : List Char) : Option (Nat × List Char) := do
  let digits := text.takeWhile Char.isDigit
  guard (!digits.isEmpty && digits.length ≤ 9)
  return (← digitsValue? 10 digits, text.dropWhile Char.isDigit)

/-- A version of the format, which must be 1.1 or 1.2, and the text after it. -/
def version? (text : List Char) : Option (List Char) := do
  let (major, text) ← versionNumber? text
  guard (startsWith '.' text)
  let (minor, text) ← versionNumber? (text.drop 1)
  guard (major = 1 && (minor = 1 || minor = 2))
  return text

/-- The handle and the tag it stands for, as a directive declares them, and the text after them. -/
def declaration? (text : List Char) : Option (String × Tag × List Char) := do
  guard (startsWith '!' text)
  let (handle, text) ← Tag.readHandle (text.drop 1)
  guard (text.head?.any isBlank)
  let (bytes, text) ← Tag.uri? true (text.dropWhile isBlank)
  guard (atGap text)
  return (handle, bytes, text)

/-- What a directive states, by its name and the text after its name, and the text after all of
it. -/
def state? (l : Layout) (name : String) (text : List Char) : Option (Layout × List Char) :=
  match name with
  | "YAML" => do
    guard (!l.versioned)
    return ({ l with versioned := true }, ← version? text)
  | "TAG" => do
    let (handle, bytes, rest) ← declaration? text
    guard (l.handles.lookup handle).isNone
    return ({ l with handles := (handle, bytes) :: l.handles }, rest)
  | _ => none

/-- A line that states the version of the format, once, or declares a handle, each once. -/
def directive (l : Layout) (c : Cursor) : Read := do
  let l ← (l.close fun _ => true).dropKey
  let text := c.rest.drop 1
  let rest := text.dropWhile isWord
  guard (atGap rest)
  let (l, rest) ← l.state? (String.ofList (text.takeWhile isWord)) (rest.dropWhile isBlank)
  let ending ← endOfLine? rest
  return ({ l.emit .directive with keyAllowed := false }, ⟨c.mark.newline, ending.drop 1⟩)

/-- Whether a plain scalar may begin so. -/
def startsPlain (flow : Bool) (text : List Char) : Bool :=
  match text with
  | [] => false
  | c :: rest =>
    !(isBlank c || isBreak c || "-?:,[]\x7b\x7d#&*!|>'\"%@\x60".toList.contains c)
      || (c = '-' && !rest.head?.any isBlank)
      || (!flow && (c = '?' || c = ':') && !atGap rest)

/-- The token that starts at a cursor. -/
def token (l : Layout) (c : Cursor) : Read :=
  let gap := atGap (c.rest.drop 1)
  let first := c.rest.head?
  if c.mark.column = 0 && first == some '%' then l.directive c
  else if c.mark.column = 0 && startsTriple '-' c.rest then l.marker c .documentStart
  else if c.mark.column = 0 && startsTriple '.' c.rest then l.marker c .documentEnd
  else match first with
  | some '[' => l.openBracket c .sequenceStart
  | some '{' => l.openBracket c .mappingStart
  | some ']' => l.closeBracket c .sequenceEnd
  | some '}' => l.closeBracket c .mappingEnd
  | some ',' => l.comma c
  | some '*' => l.name c true
  | some '&' => l.name c false
  | some '!' => l.tag c
  | some '\'' => l.quoted c true
  | some '"' => l.quoted c false
  | _ =>
    if first == some '-' && gap then l.hyphen c
    else if first == some '?' && (l.inFlow || gap) then l.question c
    else if first == some ':' && (l.inFlow || gap) then l.colon c
    else if first == some '|' && !l.inFlow then l.block c true
    else if first == some '>' && !l.inFlow then l.block c false
    else if startsPlain l.inFlow c.rest then l.plainScalar c
    else none

/-! ## Whole texts -/

/-- Pass over blanks, comments and breaks to the next token, noting whether a key may start there.
A line may begin with a byte-order mark, and tabs count as blanks only where no key may start. -/
def toToken (flow keyAllowed : Bool) (m : Mark) : List Char → Bool × Cursor
  | [] => (keyAllowed, ⟨m, []⟩)
  | c :: rest =>
    if isBreak c then toToken flow (keyAllowed || !flow) m.newline rest
    else if c = ' ' || (c = '\t' && (flow || !keyAllowed)) || (m.column = 0 && c = '\uFEFF') then
      toToken flow keyAllowed (m.past [c]) rest
    else if c = '#' then
      let comment := rest.takeWhile (!isBreak ·)
      toToken flow keyAllowed (m.past (c :: comment)) (rest.drop comment.length)
    else (keyAllowed, ⟨m, c :: rest⟩)
termination_by text => text.length
decreasing_by all_goals simp only [List.length_cons, List.length_drop]; omega

/-- The tokens from a cursor on.  Each takes at least one character, so the lengths compared here
always decrease. -/
def tokens (l : Layout) (c : Cursor) : Option (List Token) :=
  let (keyAllowed, here) := toToken l.inFlow l.keyAllowed c.mark c.rest
  match dropStale { l with keyAllowed } here.mark with
  | none => none
  | some l =>
    let l := l.close (here.mark.column < ·)
    if here.rest.isEmpty then (l.close fun _ => true).dropKey.map fun l => l.groups.toList.flatten
    else match l.token here with
      | none => none
      | some (l, next) => if next.rest.length < c.rest.length then tokens l next else none
termination_by c.rest.length

end Layout

/-- The tokens of a text, if it has only printable characters and is well laid out. -/
def Token.ofText? (s : String) : Option (List Token) := do
  guard (s.toList.all isPrintable)
  Layout.tokens {} { rest := normalBreaks s.toList }

end ApiContract.Yaml
