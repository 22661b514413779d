import ApiContract.Pattern.Plain.Reader

/-!
# Pattern/Script — patterns as web scripts write them

In web scripts a control character may be written by its letter after `\c`, and the shorthand
classes are classes of ASCII, apart from some blanks.  `respell?` writes such a pattern for the
grammars here.  A text that asks for the wide grammar is left as it stands from there on.
-/

namespace ApiContract.Pattern

/-- The blanks of web scripts. -/
def scriptBlanks : List Char :=
  [' ', '\t', '\n', '\r', '\x0b', '\x0c', '\xa0', '\uFEFF', '\u2003', '\u2029']

/-- The class that a shorthand stands for in web scripts. -/
def scriptClass (letter : Char) : List Char :=
  let members := match letter.toLower with
    | 'd' => "0-9".toList
    | 'w' => "A-Za-z0-9_".toList
    | _ => scriptBlanks
  ['['] ++ (if letter.isUpper then ['^'] else []) ++ members ++ [']']

/-- A text with the shorthands in it written as classes; each is given by how many characters of the
text are left after it, the last one first. -/
def writeClasses (text : List Char) (shorthands : List (Nat × Char)) : List Char :=
  shorthands.foldl (fun written s =>
    let after := text.length - s.1
    written.take (after - 2) ++ scriptClass s.2 ++ written.drop after) text

/-- A text with the control character that is written by its letter `left` characters before the
end. -/
def writeControl (text : List Char) (left : Nat) : List Char :=
  let before := text.take (text.length - left)
  match text.drop (text.length - left) with
  | _ :: _ :: letter :: rest => before ++ Char.ofNat (letter.toNat % 32) :: rest
  | _ => text

/-- Respell a text, of whose control characters at most `fuel` are written by their letters. -/
def respellWith : Nat → List Char → Option (List Char)
  | 0, _ => none
  | fuel + 1, text => match Plain.read text with
    | .ok (_, s) => if s.bell then none else some (writeClasses text s.shorthands)
    | .error .beyond => some text
    | .error .wrong => none
    | .error (.control left) => respellWith fuel (writeControl text left)

/-- **A pattern of web scripts written for the grammars here**, if it is one. -/
def respell? (text : String) : Option String :=
  (respellWith (text.length + 1) text.toList).map String.ofList

end ApiContract.Pattern
