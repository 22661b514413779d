import ApiContract.Document.Check
import ApiContract.Text.LowerCase

/-!
# Path/Template — path templates and the requests they match

A template is a slash and pieces between slashes, each a bare identifier or a whole identifier in
braces; empty pieces do not count.  A bare piece is matched in any letter case, a braced one names a
variable and matches any segment of a request.
-/

namespace ApiContract

/-- One piece of a template. -/
inductive Segment where
  | const (value : String)
  | var (name : String)
  deriving DecidableEq

/-- A path template: its text and its pieces. -/
structure Template where
  text : String
  segments : List Segment
  deriving DecidableEq

/-- The pieces between the slashes of a text, the empty ones included. -/
def pieces : List Char → List (List Char)
  | [] => [[]]
  | c :: cs => match pieces cs with
    | [] => [[c]]
    | p :: ps => if c = '/' then [] :: p :: ps else (c :: p) :: ps

/-- A letter, digit or underscore of ASCII. -/
def isIdentifierChar (c : Char) : Bool := c.isAlphanum || c == '_'

/-- A text of such characters that is not empty. -/
def isIdentifier (cs : List Char) : Bool := !cs.isEmpty && cs.all isIdentifierChar

/-- The segments of a request path: the pieces that are not empty. -/
def requestSegments (path : String) : List String :=
  ((pieces path.toList).filter (!·.isEmpty)).map String.ofList

namespace Segment

/-- Read a piece that is not empty. -/
def ofPiece? : List Char → Option Segment
  | '\x7b' :: inner =>
    if inner.getLast? = some '\x7d' ∧ isIdentifier inner.dropLast then
      some (var (String.ofList inner.dropLast))
    else none
  | piece => if isIdentifier piece then some (const (String.ofList piece)) else none

/-- The name of a variable. -/
def variableName? : Segment → Option String
  | var name => some name
  | const _ => none

/-- Whether a segment of a request satisfies the piece. -/
def accepts : Segment → String → Bool
  | const value, segment => Text.lowerCase value == Text.lowerCase segment
  | var _, _ => true

end Segment

namespace Template

/-- Read a template, or refuse its place. -/
def parse (p : Location) (raw : String) : Checked Template :=
  match raw.toList with
  | '/' :: rest =>
    match ((pieces rest).filter (!·.isEmpty)).mapM Segment.ofPiece? with
    | some segments => .ok ⟨raw, segments⟩
    | none => refuse p .badTemplate
  | _ => refuse p .badTemplate

/-- The names of the variables, in order, repeats included. -/
def variableNames (t : Template) : List String := t.segments.filterMap Segment.variableName?

/-- Whether a request has as many segments and each satisfies its piece. -/
def matchesRequest (t : Template) (request : List String) : Bool :=
  request.length == t.segments.length && (t.segments.zip request).all fun sr => sr.1.accepts sr.2

/-- Each variable with the segment in its place. -/
def extract (t : Template) (request : List String) : List (String × String) :=
  (t.segments.zip request).filterMap fun sr => sr.1.variableName?.map fun name => (name, sr.2)

end Template

end ApiContract
