import ApiContract.Lifecycle
import ApiContract.Source.Format
import ApiContract.Url.Reader

/-!
# Source/Fetch — the document a target names

A target that begins with `http` is a URL, any other one a path whose extension tells the format.
There is no network here: a URL can only be refused, before or at the request.
-/

namespace ApiContract

/-- Whether a target is meant as a URL. -/
def isUrlTarget (target : String) : Bool := target.startsWith "http"

/-- Why a URL is refused: only web schemes can be asked, and no server can be reached. -/
def Url.refusal (u : Url) : String :=
  let kind := if (impliedPort? u.scheme).isSome then "error sending request" else "builder error"
  kind ++ " for url (" ++ u.withoutCredentials.text ++ ")"

/-- **Fetch the document that a target names.** -/
def fetchTarget (read : ReadFile) (target : String) : Fetched :=
  if isUrlTarget target then
    match Url.read target with
    | .error e => .error (.invalidUrl target e.message)
    | .ok u => .error (.http target u.refusal)
  else match Format.ofPath? target with
    | none => .error (.unknownTarget target)
    | some format => match readText read target with
      | .error fault => .error (.io target fault.message)
      | .ok text => (format.decode text).mapError (.decode target)

end ApiContract
