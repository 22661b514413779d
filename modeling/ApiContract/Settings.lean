import ApiContract.Numeral.Unsigned
import ApiContract.Source.Fetch

/-!
# Settings — which specification, and how long to wait for it

Settings come from environment variables, or from a target alone.
-/

namespace ApiContract

/-- The target of the specification, and the seconds a fetch may take. -/
structure Settings where
  target : String
  timeout : Nat := 30
  deriving DecidableEq

/-- Why the environment holds no settings. -/
inductive SettingsError where
  | missingTarget
  | invalidUrl (target : String) (cause : Url.Error)
  deriving DecidableEq

/-- The variable that holds the target. -/
def targetVariable : String := "STRICT_OPENAPI_SPEC"

/-- The variable that holds the seconds. -/
def timeoutVariable : String := "STRICT_OPENAPI_FETCH_TIMEOUT_SECS"

/-- The wording of an error. -/
def SettingsError.message : SettingsError → String
  | missingTarget => targetVariable ++ " environment variable is required"
  | invalidUrl target cause => "invalid URL " ++ target ++ ": " ++ cause.message

namespace Settings

/-- The settings of an environment.  A URL is checked at once; seconds that are none count as
absent. -/
def ofEnvironment (env : String → Option String) : Except SettingsError Settings :=
  match env targetVariable with
  | none => .error .missingTarget
  | some target => do
    if isUrlTarget target then
      discard <| (Url.read target).mapError (.invalidUrl target)
    let standard : Settings := { target }
    let timeout := (env timeoutVariable).bind (unsigned? 0x10000000000000000)
    return { standard with timeout := timeout.getD standard.timeout }

/-- The settings for a target that was given, or else those of the environment; the message if there
are none. -/
def choose (given : Option String) (env : String → Option String) : Except String Settings :=
  match given with
  | some target => .ok { target }
  | none => (ofEnvironment env).mapError fun e => "no --spec given: " ++ e.message

end Settings

end ApiContract
