/-!
# Contract/Method — the methods an operation can have
-/

namespace ApiContract

/-- A method, in the order operations are listed. -/
inductive Method where
  | get | post | patch | put | delete
  deriving DecidableEq, Ord

/-- A text with its ASCII letters in lower case, all else as it is. -/
def asciiLower (s : String) : String := String.ofList (s.toList.map Char.toLower)

namespace Method

/-- Every method, in order. -/
def all : List Method := [get, post, patch, put, delete]

/-- The name of a method in a document. -/
def name : Method → String
  | get => "get"
  | post => "post"
  | patch => "patch"
  | put => "put"
  | delete => "delete"

/-- The method of a name, written exactly so. -/
def ofName? (s : String) : Option Method := all.find? fun m => m.name == s

/-- The method of a name in any ASCII letter case. -/
def parse? (s : String) : Option Method := ofName? (asciiLower s)

end Method

end ApiContract
