import ApiContract.Yaml.Mark

/-!
# Yaml/BlockScalar — literal and folded scalars

A header tells what becomes of the last breaks and may tell how deep the lines are indented;
otherwise the first line that is not empty decides.  A folded scalar joins two lines that begin with
no blank.
-/

namespace ApiContract.Yaml

/-- What becomes of the breaks at the end: none is kept, the first, or all. -/
inductive Chomp where
  | strip | clip | keep
  deriving DecidableEq

/-- The chomping a character asks for. -/
def Chomp.ofChar? : Char → Option Chomp
  | '-' => some strip
  | '+' => some keep
  | _ => none

/-- The head of a block scalar. -/
structure BlockHeader where
  literal : Bool
  chomp : Chomp := .clip
  /-- How much deeper than their block the lines are, where that is told. -/
  depth : Option Nat := none

/-- An indentation from one to nine. -/
def blockDepth? (c : Char) : Option Nat :=
  if '1' ≤ c && c ≤ '9' then some (c.toNat - '0'.toNat) else none

/-- The head of a block scalar from after its indicator, and the text after the head's marks. -/
def BlockHeader.read (literal : Bool) (text : List Char) : BlockHeader × List Char :=
  match text with
  | [] => ({ literal }, [])
  | a :: rest =>
    let second : Option Char := rest.head?
    match Chomp.ofChar? a, blockDepth? a with
    | some chomp, _ => match second.bind blockDepth? with
      | some depth => ({ literal, chomp, depth := some depth }, rest.drop 1)
      | none => ({ literal, chomp }, rest)
    | none, some depth => match second.bind Chomp.ofChar? with
      | some chomp => ({ literal, chomp, depth := some depth }, rest.drop 1)
      | none => ({ literal, depth := some depth }, rest)
    | none, none => ({ literal }, a :: rest)

/-- The empty lines before a line of a block scalar. -/
structure EmptyLines where
  /-- The deepest column reached. -/
  deepest : Nat
  /-- Their breaks, the last one first. -/
  breaks : List Char
  next : Cursor

/-- Pass over empty lines and the indentation of the line after them: all its spaces, or those
before the column `indent`.  A tab there is refused. -/
def emptyLines (indent : Option Nat) (deepest : Nat) (breaks : List Char) (m : Mark) :
    List Char → Option EmptyLines
  | [] => some ⟨deepest, breaks, ⟨m, []⟩⟩
  | c :: rest =>
    if isBreak c then emptyLines indent deepest (c :: breaks) m.newline rest
    else if indent.all (m.column < ·) && c = ' ' then
      emptyLines indent (max deepest (m.column + 1)) breaks (m.past [c]) rest
    else if indent.all (m.column < ·) && c = '\t' then none
    else some ⟨deepest, breaks, ⟨m, c :: rest⟩⟩

/-- The text of a block scalar so far. -/
structure BlockText where
  /-- Its characters, the last one first. -/
  done : List Char := []
  /-- The break that ended the last line. -/
  lineBreak : Option Char := none
  /-- The breaks of the empty lines after it, the last one first. -/
  breaks : List Char
  /-- Whether the last line began with a blank. -/
  blankLine : Bool := false

/-- The text with a further line. -/
def BlockText.addLine (literal : Bool) (t : BlockText) (line : List Char) : List Char :=
  let blank := line.head?.any isBlank
  let folds := !literal && t.lineBreak == some '\n' && !t.blankLine && !blank
  let joint := if folds then (if t.breaks.isEmpty then [' '] else []) else t.lineBreak.toList
  line.reverse ++ t.breaks ++ joint ++ t.done

/-- The characters of a whole block scalar. -/
def BlockText.finish (chomp : Chomp) (t : BlockText) : String :=
  let last := if chomp = .strip then [] else t.lineBreak.toList
  let tail := if chomp = .keep then t.breaks else []
  String.ofList (tail ++ last ++ t.done).reverse

/-- Read lines as long as they are indented to the column `indent`.  Each takes at least one
character, so the lengths compared here always decrease. -/
def blockLines (h : BlockHeader) (indent : Nat) (t : BlockText) (c : Cursor) :
    Option (String × Cursor) :=
  if c.mark.column = indent && !c.rest.isEmpty then
    let line := c.rest.takeWhile (!isBreak ·)
    let after := c.rest.dropWhile (!isBreak ·)
    let mark := if after.isEmpty then c.mark.past line else c.mark.newline
    match emptyLines (some indent) 0 [] mark (after.drop 1) with
    | none => none
    | some lines =>
      if lines.next.rest.length < c.rest.length then
        blockLines h indent ⟨t.addLine h.literal line, after.head?, lines.breaks,
          line.head?.any isBlank⟩ lines.next
      else none
  else some (t.finish h.chomp, c)
termination_by c.rest.length

/-- The block scalar whose indicator the cursor has passed, in a block whose lines start at
`margin`. -/
def blockScalar (literal : Bool) (margin : Nat) (c : Cursor) : Option (String × Cursor) := do
  let (h, text) := BlockHeader.read literal c.rest
  let ending ← endOfLine? text
  let mark := if ending.isEmpty then c.mark else c.mark.newline
  let indent := h.depth.map (margin - 1 + ·)
  let lines ← emptyLines indent 0 [] mark (ending.drop 1)
  blockLines h (indent.getD (max lines.deepest (max margin 1))) { breaks := lines.breaks }
    lines.next

end ApiContract.Yaml
