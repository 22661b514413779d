import ApiContract.Numeral.Unsigned

/-!
# Contract/Status — the status codes a response can be declared for
-/

namespace ApiContract

/-- What a response is declared for: one of the known codes, or every other status. -/
inductive Status where
  | ok | created | movedPermanently | found | notFound | conflict | unprocessable | default
  deriving DecidableEq, Ord

namespace Status

/-- Every key, in the order responses are listed. -/
def all : List Status :=
  [ok, created, movedPermanently, found, notFound, conflict, unprocessable, default]

/-- The spelling of a key in a document. -/
def name : Status → String
  | ok => "200"
  | created => "201"
  | movedPermanently => "301"
  | found => "302"
  | notFound => "404"
  | conflict => "409"
  | unprocessable => "422"
  | default => "default"

/-- The key of a status code. -/
def ofCode? : Nat → Option Status
  | 200 => some ok
  | 201 => some created
  | 301 => some movedPermanently
  | 302 => some found
  | 404 => some notFound
  | 409 => some conflict
  | 422 => some unprocessable
  | _ => none

/-- The key of a text: `default`, or a code of 16 bits in any decimal spelling. -/
def parse? (s : String) : Option Status :=
  if s = "default" then some default else (unsigned? 0x10000 s).bind ofCode?

end Status

end ApiContract
