import ApiContract.Json.Printer

/-!
# Traffic/Rejection — why a request or a response is not what the contract promises

Every rejection names the path as it was received and the method in lower case.
-/

namespace ApiContract

/-- What every message about an exchange names: its path as received and its method in lower
case. -/
structure Exchange where
  path : String
  method : String
  deriving DecidableEq

/-- Why a request or a response is rejected. -/
inductive Rejection where
  /-- No template matches the path. -/
  | noPath (path : String)
  /-- The path has no such operation. -/
  | noOperation (x : Exchange)
  /-- A parameter that the operation does not declare. -/
  | unknownParameter (name : String) (x : Exchange)
  /-- A value that is no positive integer. -/
  | notInteger (name value : String) (x : Exchange)
  /-- A value that is no boolean. -/
  | notBoolean (name value : String) (x : Exchange)
  /-- Required parameters that are not there. -/
  | missingParameters (names : List String) (x : Exchange)
  /-- A body that is required and not there. -/
  | bodyMissing (x : Exchange)
  /-- A body where the operation declares none. -/
  | bodyUndeclared (essence : String) (x : Exchange)
  /-- A request body of a media type that is not declared. -/
  | bodyMedia (essence : String) (x : Exchange)
  /-- A request body that is no JSON or breaks its schema. -/
  | bodyBroken (reason : String) (x : Exchange)
  /-- A status with neither a response of its own nor a default one. -/
  | noStatus (status : Nat) (x : Exchange)
  /-- A response body of a media type that is not declared. -/
  | responseMedia (essence : String) (status : Nat) (x : Exchange)
  /-- A response body that is no JSON or breaks its schema. -/
  | responseBroken (reason essence : String) (status : Nat) (x : Exchange)
  deriving DecidableEq

/-- The path and the method, quoted. -/
def Exchange.text (x : Exchange) : String := "\"" ++ x.path ++ "\" \"" ++ x.method ++ "\""

/-- The wording of a rejection. -/
def Rejection.message : Rejection → String
  | noPath path => "Not found spec for \"" ++ path ++ "\""
  | noOperation x => "Not found spec for " ++ x.text
  | unknownParameter name x => "Unknown param \"" ++ name ++ "\" for " ++ x.text
  | notInteger name value x =>
    "Expect integer param \"" ++ name ++ "\" but get \"" ++ value ++ "\" for " ++ x.text
  | notBoolean name value x =>
    "Expect boolean param \"" ++ name ++ "\" but get \"" ++ value ++ "\" for " ++ x.text
  | missingParameters names x => "Missed required params " ++ quotedList names ++ " for " ++ x.text
  | bodyMissing x => "Request body required but missed for " ++ x.text
  | bodyUndeclared essence x =>
    "Request body provided but not defined in schema for " ++ x.text ++ " \"" ++ essence ++ "\""
  | bodyMedia essence x => "Not found request body spec for " ++ x.text ++ " \"" ++ essence ++ "\""
  | bodyBroken reason _ => "request failed: " ++ reason
  | noStatus status x => "Not found spec for " ++ x.text ++ " \"" ++ toString status ++ "\""
  | responseMedia essence status x =>
    "Not found spec for " ++ x.text ++ " \"" ++ toString status ++ "\" \"" ++ essence ++ "\""
  | responseBroken reason essence status x =>
    "schema failed for " ++ x.text ++ " \"" ++ toString status ++ "\" \"" ++ essence ++
      "\": " ++ reason

end ApiContract
