import ApiContract.Contract.Operation

/-!
# Traffic/Parameters — the parameters of a request

Query pairs overlay the values of path variables: a name that is there takes the new value in its
place, a new one follows.
-/

namespace ApiContract

/-- Overlay pairs on the parameters so far, in arrival order. -/
def mergeParameters (path query : List (String × String)) : List (String × String) :=
  query.foldl (fun merged q => write q.1 q.2 merged) path
where
  /-- Write a value over the first of the name, or behind all. -/
  write (name value : String) : List (String × String) → List (String × String)
    | [] => [(name, value)]
    | (n, v) :: rest => if n == name then (n, value) :: rest else (n, v) :: write name value rest

/-- A positive integer in its canonical decimal form. -/
def isPositiveDecimal (value : String) : Bool :=
  match value.toList with
  | [] => false
  | c :: cs => c.isDigit && c != '0' && cs.all Char.isDigit

/-- `true` or `false` in any ASCII letter case. -/
def isBooleanWord (value : String) : Bool :=
  asciiLower value == "true" || asciiLower value == "false"

/-- Whether a value is of a type. -/
def ParameterType.admits : ParameterType → String → Bool
  | string, _ => true
  | integer, value => isPositiveDecimal value
  | boolean, value => isBooleanWord value

end ApiContract
