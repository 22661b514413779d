import ApiContract.Numeral.Digits
import ApiContract.Yaml.Mark

/-!
# Yaml/FlowScalar — plain and quoted scalars

All three may run over several lines.  What stands between two words is a `Gap`: blanks are kept,
while breaks fold, a single one to a space and more to all but the first.
-/

namespace ApiContract.Yaml

/-- What stands between two words of a scalar: blanks of one line, or breaks with blanks about
them.  A first break that was escaped is absent. -/
inductive Gap where
  | blanks (cs : List Char)
  | breaks (first : Option Char) (more : List Char)

namespace Gap

/-- No gap. -/
def empty : Gap := blanks []

/-- Whether words touch. -/
def isEmpty : Gap → Bool
  | blanks cs => cs.isEmpty
  | breaks _ _ => false

/-- Whether a gap reaches over a line's end. -/
def isBroken : Gap → Bool
  | blanks _ => false
  | breaks _ _ => true

/-- The text a gap stands for. -/
def text : Gap → List Char
  | blanks cs => cs
  | breaks (some '\n') [] => [' ']
  | breaks (some '\n') more => more
  | breaks first more => first.toList ++ more

/-- A gap and a further blank; blanks about breaks do not count. -/
def addBlank (c : Char) : Gap → Gap
  | blanks cs => blanks (cs ++ [c])
  | broken => broken

/-- A gap and a further break. -/
def addBreak (c : Char) : Gap → Gap
  | blanks _ => breaks (some c) []
  | breaks first more => breaks first (more ++ [c])

/-- The reversed text so far with the gap at its end. -/
def onto (g : Gap) (done : List Char) : List Char := g.text.reverse ++ done

end Gap

/-- The scalar between single quotes, from after the first; a quote inside is written twice. -/
def singleQuoted (g : Gap) (m : Mark) (done : List Char) : List Char → Option (String × Cursor)
  | [] => none
  | '\'' :: '\'' :: rest => singleQuoted .empty (m.past ['\'', '\'']) ('\'' :: g.onto done) rest
  | '\'' :: rest => some (String.ofList (g.onto done).reverse, ⟨m.past ['\''], rest⟩)
  | c :: rest =>
    if isBreak c then singleQuoted (g.addBreak c) m.newline done rest
    else if isBlank c then singleQuoted (g.addBlank c) (m.past [c]) done rest
    else if m.column = 0 && startsMarker (c :: rest) then none
    else singleQuoted .empty (m.past [c]) (c :: g.onto done) rest

/-- The character that a backslash and a letter stand for. -/
def escaped? : Char → Option Char
  | '0' => some '\x00'
  | 'a' => some '\x07'
  | 'b' => some '\x08'
  | 't' | '\t' => some '\t'
  | 'n' => some '\n'
  | 'v' => some '\x0B'
  | 'f' => some '\x0C'
  | 'r' => some '\r'
  | 'e' => some '\x1B'
  | ' ' => some ' '
  | '"' => some '"'
  | '/' => some '/'
  | '\\' => some '\\'
  | 'N' => some '\x85'
  | '_' => some '\xA0'
  | 'L' => some '\u2028'
  | 'P' => some '\u2029'
  | _ => none

/-- How many hexadecimal digits follow a backslash and a letter. -/
def escapeWidth? : Char → Option Nat
  | 'x' => some 2
  | 'u' => some 4
  | 'U' => some 8
  | _ => none

/-- The character whose code the first `n` characters write. -/
def codePoint? (n : Nat) (text : List Char) : Option Char := do
  guard (n ≤ text.length)
  let code ← digitsValue? 16 (text.take n)
  if code.isValidChar then some (Char.ofNat code) else none

/-- The character an escape stands for, and the length of the escape after its backslash. -/
def escape? (letter : Char) (rest : List Char) : Option (Char × Nat) :=
  match escaped? letter with
  | some c => some (c, 1)
  | none => do
    let n ← escapeWidth? letter
    return (← codePoint? n rest, n + 1)

/-- The scalar between double quotes, from after the first; a backslash before a break joins the
lines. -/
def doubleQuoted (g : Gap) (m : Mark) (done text : List Char) : Option (String × Cursor) :=
  match text with
  | [] | ['\\'] => none
  | '"' :: rest => some (String.ofList (g.onto done).reverse, ⟨m.past ['"'], rest⟩)
  | '\\' :: letter :: rest =>
    if isBreak letter then doubleQuoted (.breaks none []) m.newline (g.onto done) rest
    else match escape? letter rest with
      | none => none
      | some (c, n) =>
        let digits := rest.take (n - 1)
        doubleQuoted .empty (m.past ('\\' :: letter :: digits)) (c :: g.onto done)
          (rest.drop (n - 1))
  | c :: rest =>
    if isBreak c then doubleQuoted (g.addBreak c) m.newline done rest
    else if isBlank c then doubleQuoted (g.addBlank c) (m.past [c]) done rest
    else if m.column = 0 && startsMarker (c :: rest) then none
    else doubleQuoted .empty (m.past [c]) (c :: g.onto done) rest
termination_by text.length
decreasing_by all_goals simp only [List.length_cons, List.length_drop]; omega

/-- The characters that end a plain scalar within brackets. -/
def isFlowIndicator (c : Char) : Bool := c = ',' || c = '[' || c = ']' || c = '{' || c = '}'

/-- A plain scalar as it was read. -/
structure Plain where
  text : String
  /-- Whether breaks stand between the scalar and what follows. -/
  broken : Bool
  next : Cursor

/-- The plain scalar that starts here, within brackets or not, in a block whose lines start at
`margin` or later. -/
def plain (flow : Bool) (margin : Nat) (g : Gap) (m : Mark) (done : List Char) :
    List Char → Option Plain
  | [] => some ⟨String.ofList done.reverse, g.isBroken, ⟨m, []⟩⟩
  | c :: rest =>
    if isBreak c then plain flow margin (g.addBreak c) m.newline done rest
    else if isBlank c then
      if g.isBroken && c = '\t' && m.column < margin then none
      else plain flow margin (g.addBlank c) (m.past [c]) done rest
    else
      let outside := c = '#' || (!flow && m.column < margin)
      if (!g.isEmpty && outside) || (m.column = 0 && startsMarker (c :: rest)) then
        some ⟨String.ofList done.reverse, g.isBroken, ⟨m, c :: rest⟩⟩
      else if flow && c = ':' && rest.head?.any (fun d => d = '?' || isFlowIndicator d) then none
      else if (c = ':' && atGap rest) || (flow && isFlowIndicator c) then
        some ⟨String.ofList done.reverse, g.isBroken, ⟨m, c :: rest⟩⟩
      else plain flow margin .empty (m.past [c]) (c :: g.onto done) rest

end ApiContract.Yaml
