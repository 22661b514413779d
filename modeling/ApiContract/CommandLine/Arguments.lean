import ApiContract.CommandLine.Command
import ApiContract.Numeral.Unsigned

/-!
# CommandLine/Arguments — reading the arguments of the program

Options are long, or short letters run together; a value follows its option after an equals sign or
as the next argument, which must not look like an option.  The arguments before the command and
those after it are read as two levels; the target and the verbosity may be given on either, the
later level counting.
-/

namespace ApiContract

/-- A pair written with an equals sign, the first one counting. -/
def readPair (raw : String) : Except String (String × String) :=
  match raw.toList.dropWhile (· ≠ '=') with
  | [] => .error ("expected name=value, got \"" ++ raw ++ "\"")
  | _ :: value => .ok (String.ofList (raw.toList.takeWhile (· ≠ '=')), String.ofList value)

/-- The integer that a text writes after at most one sign, below a limit and not below zero. -/
def readCount? (limit : Nat) (text : String) : Option Nat :=
  match text.toList with
  | '-' :: digits => ((digitsValue? 10 digits).filter (· = 0))
  | _ => unsigned? limit text

namespace CommandLine

/-- How often an option may stand, and whether it has a value. -/
inductive Arity where
  | flag | counted | single | repeated
  deriving DecidableEq

/-- Whether options of a kind have a value. -/
def Arity.takesValue : Arity → Bool
  | flag | counted => false
  | single | repeated => true

/-- Whether options of a kind may stand more than once. -/
def Arity.mayRepeat : Arity → Bool
  | flag | single => false
  | counted | repeated => true

/-- Where arguments stand: before the command, or after one. -/
inductive Level where
  | top | compile | routes | checkRequest | checkResponse
  deriving DecidableEq

/-- The commands by name. -/
def Level.ofName? : String → Option Level
  | "compile" => some compile
  | "routes" => some routes
  | "check-request" => some checkRequest
  | "check-response" => some checkResponse
  | _ => none

/-- The options of a level besides those for help and version. -/
def Level.options (level : Level) : List (String × Arity) :=
  [("verbose", .counted), ("spec", .single)] ++ match level with
    | top | routes => []
    | compile => [("compact", .flag)]
    | checkRequest => [("method", .single), ("path", .single), ("query", .repeated)] ++ body
    | checkResponse => [("method", .single), ("path", .single), ("status", .single)] ++ body
where
  /-- The options of a body. -/
  body : List (String × Arity) :=
    [("content-type", .single), ("body", .single), ("body-file", .single)]

/-- Why reading ends early. -/
inductive Stop where
  | help | version | usage
  deriving DecidableEq

/-- The options given on a level, with their values, in order. -/
abbrev Given := List (String × String)

/-- Whether a value suits an option. -/
def suits (option value : String) : Bool :=
  match option with
  | "query" => (readPair value).toBool
  | "status" => (readCount? 0x10000 value).isSome
  | "body-file" => !value.isEmpty
  | _ => true

/-- The options given with a further one. -/
def Given.add (level : Level) (given : Given) (option value : String) : Except Stop Given :=
  let mayRepeat := (level.options.lookup option).any Arity.mayRepeat
  if (!mayRepeat && (given.lookup option).isSome) || !suits option value then .error .usage
  else .ok (given ++ [(option, value)])

/-- The options given with those of a run of short letters. -/
def Given.addLetters (level : Level) (given : Given) : List Char → Except Stop Given
  | [] => .ok given
  | 'h' :: _ => .error .help
  | 'v' :: rest => addLetters level (given ++ [("verbose", "")]) rest
  | 'V' :: _ => .error (if level = .top then .version else .usage)
  | _ => .error .usage

/-- An option that was met: one whose value is the next argument, or none. -/
abbrev Pending := Option String

/-- Take up a long option, with the value after its equals sign. -/
def Given.addLong (level : Level) (given : Given) (option : String) (value : Option String) :
    Except Stop (Given × Pending) :=
  match level.options.lookup option, value with
  | none, none =>
    .error (if option = "help" then .help
      else if option = "version" && level = .top then .version
      else .usage)
  | none, some _ => .error .usage
  | some arity, some value =>
    if arity.takesValue then (given.add level option value).map (·, none) else .error .usage
  | some arity, none =>
    if arity.takesValue then .ok (given, some option) else (given.add level option "").map (·, none)

/-- A long option and the value after its equals sign. -/
def splitLong (text : List Char) : String × Option String :=
  let value := text.dropWhile (· ≠ '=')
  (String.ofList (text.takeWhile (· ≠ '=')),
    if value.isEmpty then none else some (String.ofList (value.drop 1)))

/-- Read the arguments of a level: the options given and, before the command, its name and the
arguments after it. -/
def readLevel (level : Level) (given : Given) (pending : Pending) :
    List String → Except Stop (Given × Option (String × List String))
  | [] => if pending.isSome then .error .usage else .ok (given, none)
  | arg :: rest =>
    match arg.toList, pending with
    | '-' :: '-' :: _, some _ => .error .usage
    | '-' :: _ :: _, some _ => .error .usage
    | _, some option => do readLevel level (← given.add level option arg) none rest
    | ['-', '-'], none => if rest.isEmpty then .ok (given, none) else .error .usage
    | '-' :: '-' :: long, none => do
      let (option, value) := splitLong long
      let (given, pending) ← given.addLong level option value
      readLevel level given pending rest
    | '-' :: c :: letters, none => do
      readLevel level (← given.addLetters level (c :: letters)) none rest
    | _, none => if level = .top then .ok (given, some (arg, rest)) else .error .usage

/-- The body that options give; a text and a file exclude each other. -/
def bodyOf (given : Given) : Except Stop BodySource :=
  if (given.lookup "body").isSome && (given.lookup "body-file").isSome then .error .usage
  else .ok {
    contentType := given.lookup "content-type"
    text := given.lookup "body"
    file := given.lookup "body-file" }

/-- An option that must be given. -/
def required (given : Given) (option : String) : Except Stop String :=
  match given.lookup option with
  | some value => .ok value
  | none => .error .usage

/-- The pairs that an option gives. -/
def pairsOf (given : Given) (option : String) : List (String × String) :=
  (given.filter (·.1 == option)).filterMap fun g => (readPair g.2).toOption

/-- The command of a level and its options. -/
def commandOf (level : Level) (given : Given) : Except Stop Command :=
  match level with
  | .top => .error .usage
  | .compile => .ok (.compile (given.lookup "compact").isSome)
  | .routes => .ok .routes
  | .checkRequest => do
    return .checkRequest (← required given "method") (← required given "path")
      (pairsOf given "query") (← bodyOf given)
  | .checkResponse => do
    let status ← required given "status"
    return .checkResponse (← required given "method") (← required given "path")
      ((readCount? 0x10000 status).getD 0) (← bodyOf given)

/-- What the arguments ask for. -/
structure Invocation where
  /-- The target, where one is given. -/
  target : Option String
  command : Command

/-- **Read the arguments of the program.** -/
def read (args : List String) : Except Stop Invocation := do
  match ← readLevel .top [] none args with
  | (_, none) => throw .usage
  | (_, some ("help", topics)) =>
    throw (match topics with
      | [] => .help
      | [topic] => if (Level.ofName? topic).isSome || topic = "help" then .help else .usage
      | _ => .usage)
  | (above, some (name, rest)) => match Level.ofName? name with
    | none => throw .usage
    | some level =>
      let (given, _) ← readLevel level [] none rest
      let command ← commandOf level given
      return { target := (given.lookup "spec").or (above.lookup "spec"), command }

end CommandLine

end ApiContract
