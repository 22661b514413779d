import ApiContract.CommandLine.Arguments
import ApiContract.Settings

/-!
# CommandLine/Run — one run of the program

The arguments and the environment tell what to do.  Arguments that cannot be read end the run with
code two and say nothing here.
-/

namespace ApiContract.CommandLine

/-- The name and version of the program. -/
def versionLine : String := "strictapi 0.1.0\n"

/-- How the program is used. -/
def usageText : String := "\n".intercalate [
  "Usage: strictapi [-v...] [--spec TARGET] COMMAND",
  "",
  "  compile [--compact]",
  "  routes",
  "  check-request --method METHOD --path PATH [--query NAME=VALUE]... [BODY]",
  "  check-response --method METHOD --path PATH --status CODE [BODY]",
  "",
  "BODY is [--content-type TYPE] and one of --body TEXT and --body-file FILE.",
  ""]

/-- The paths of the files that an invocation may read. -/
def Invocation.paths (i : Invocation) (env : String → Option String) : List String :=
  ((Settings.choose i.target env).toOption.map (·.target)).toList ++ match i.command with
    | .checkRequest _ _ _ body => body.file.toList
    | .checkResponse _ _ _ body => body.file.toList
    | .compile _ | .routes => []

/-- A character of a log line: the controls that steer a terminal are written out in hexadecimal. -/
def logChar (c : Char) : List Char :=
  let digits := Nat.toDigits 16 c.toNat
  if c = '\x1b' || c = '\x7f' then ['\\', 'x'] ++ digits
  else if c = '\x07' || c = '\x08' || c = '\x0c' then ['\\', 'x', '0'] ++ digits
  else if '\x80' ≤ c && c ≤ '\x9f' then ['\\', 'u', '\x7b'] ++ digits ++ ['\x7d']
  else [c]

/-- The log line of an error that ends a run. -/
def errorLine (message : String) : String :=
  "ERROR " ++ String.ofList (message.toList.flatMap logChar) ++ "\n"

/-- **One run**: what the program leaves behind. -/
def run (read : ReadFile) (env : String → Option String) (args : List String) : Outcome :=
  match CommandLine.read args with
  | .error .help => { code := 0, output := usageText }
  | .error .version => { code := 0, output := versionLine }
  | .error .usage => { code := 2 }
  | .ok invocation =>
    let outcome := do
      let settings ← Settings.choose invocation.target env
      invocation.command.run read settings.target
    match outcome with
    | .ok outcome => outcome
    | .error message => { code := 1, errors := errorLine message }

end ApiContract.CommandLine
