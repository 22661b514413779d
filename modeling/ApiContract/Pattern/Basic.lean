import ApiContract.Pattern.Machine
import ApiContract.Pattern.Regular.Search
import ApiContract.Pattern.Script
import ApiContract.Pattern.Wide.Reader

/-!
# Pattern/Basic — patterns and the search for them

A pattern is a text of the wide grammar.  If it is regular its matches are found by sets of places,
else by a program.
-/

namespace ApiContract

open Pattern

/-- A pattern that texts can be searched for. -/
inductive Pattern where
  | regular (p : Regular)
  | program (p : Program)

namespace Pattern

/-- The pattern that a text of the wide grammar writes, if it is one. -/
def ofWideText? (text : String) : Option Pattern := do
  let p ← Wide.read? text
  if !p.refersBack 1 then none
  else if p.isRegular then (Regular.ofText? (p.plainText .alone)).map regular
  else (Program.ofWide? p).map program

/-- **The pattern that a text writes as web scripts do**, if it is one. -/
def ofText? (text : String) : Option Pattern := (respell? text).bind ofWideText?

/-- **Whether a text contains a match of a pattern.** -/
def search (p : Pattern) (text : String) : Except SearchFault Bool :=
  let chars := text.toList.toArray
  match p with
  | regular p => .ok (p.search chars)
  | program p => p.search chars

end Pattern

end ApiContract
