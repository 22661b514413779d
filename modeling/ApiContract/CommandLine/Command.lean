import ApiContract.Contract.Dump
import ApiContract.Json.Printer
import ApiContract.Source.Fetch
import ApiContract.Validator

/-!
# CommandLine/Command — what the program can be told to do

A command loads the contract once and prints it, lists its routes, or checks one exchange.  The code
is zero if all is well and one if not; why not is told on the error output.
-/

namespace ApiContract

/-- What a program leaves behind: its exit code and the texts of its two outputs. -/
structure Outcome where
  code : Nat
  output : String := ""
  errors : String := ""
  deriving DecidableEq

/-- The body that an exchange is given with, and its media type. -/
structure BodySource where
  contentType : Option String := none
  text : Option String := none
  file : Option String := none

/-- The text of the body: the given one, or else that of the file, or else none. -/
def BodySource.load (b : BodySource) (read : ReadFile) : Except String (Option String) :=
  match b.text, b.file with
  | some text, _ => .ok (some text)
  | none, some path => match readText read path with
    | .ok text => .ok (some text)
    | .error fault => .error ("failed to read body from " ++ path ++ ": " ++ fault.message)
  | none, none => .ok none

/-- A command. -/
inductive Command where
  | compile (isCompact : Bool)
  | routes
  | checkRequest (method path : String) (query : List (String × String)) (body : BodySource)
  | checkResponse (method path : String) (status : Nat) (body : BodySource)

/-- The line that lists a path with its methods. -/
def PathEntry.routeLine (e : PathEntry) : String :=
  e.template.text ++ " " ++ ", ".intercalate (e.operations.map (·.1.name)) ++ "\n"

namespace Command

/-- The outcome of a verdict. -/
def report : Except Refusal String → Outcome
  | .ok output => { code := 0, output }
  | .error e => { code := 1, errors := e.message ++ "\n" }

/-- The verdict without anything to print. -/
def silent (verdict : Except Refusal Unit) : Except Refusal String := verdict.map fun _ => ""

/-- The text of a contract. -/
def compiled (isCompact : Bool) (c : Contract) : String :=
  (if isCompact then c.dump.compact else c.dump.pretty) ++ "\n"

/-- The outcome of a command on the specification of a target, or the message of a failure before
it. -/
def run (read : ReadFile) (target : String) (command : Command) : Except String Outcome := do
  let load (_ : Unit) : Lifecycle := Lifecycle.refresh (fun _ => fetchTarget read target) 0 {}
  match command with
  | compile isCompact => return report ((load ()).current.map (compiled isCompact))
  | routes =>
    return report ((load ()).current.map fun c => String.join (c.paths.map PathEntry.routeLine))
  | checkRequest method path query b =>
    let body ← b.load read
    let r : Request := { method, path, query, contentType := b.contentType, body }
    return report
      (silent do (← (load ()).current).checkRequest Draft4.evaluate r |>.mapError .rejected)
  | checkResponse method path status b =>
    let body ← b.load read
    let r : Reply := { method, path, status, contentType := b.contentType, body }
    return report
      (silent do (← (load ()).current).checkResponse Draft4.evaluate r |>.mapError .rejected)

end Command

end ApiContract
