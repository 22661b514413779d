/-!
# Source/Error — why a specification could not be had
-/

namespace ApiContract

/-- Why the document a target names could not be fetched. -/
inductive SourceError where
  /-- Neither a URL nor a file of a known kind. -/
  | unknownTarget (target : String)
  /-- A text that looks like a URL and is none. -/
  | invalidUrl (target reason : String)
  /-- A URL that cannot be fetched. -/
  | http (target reason : String)
  /-- A server that answered with another status than success. -/
  | status (target : String) (code : Nat)
  /-- A file that could not be read. -/
  | io (target reason : String)
  /-- Bytes that are no document. -/
  | decode (target reason : String)
  deriving DecidableEq

/-- The wording of a source error. -/
def SourceError.message : SourceError → String
  | unknownTarget target => "don't know how to open target \"" ++ target ++ "\""
  | invalidUrl target reason => "invalid URL \"" ++ target ++ "\": " ++ reason
  | http target reason => "failed to fetch \"" ++ target ++ "\": " ++ reason
  | status target code => "failed to fetch \"" ++ target ++ "\": HTTP " ++ toString code
  | io target reason => "failed to read \"" ++ target ++ "\": " ++ reason
  | decode target reason => "failed to decode \"" ++ target ++ "\": " ++ reason

end ApiContract
