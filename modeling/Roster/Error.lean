import Roster.Email
import Roster.UserId

/-!
# Failures

What an operation on the directory can fail with. Three kinds are answers to what was asked; the
others are troubles of the system itself.

* `Failure.code` names the kind and `Failure.message` words the failure.
-/

namespace Roster

/-- Why an operation failed. -/
inductive Failure where
  /-- There is no such thing. -/
  | notFound (kind id : String)
  /-- What was asked is not well formed. -/
  | validation (reason : String)
  /-- What was asked contradicts what is there. -/
  | conflict (reason : String)
  /-- The operation is not available. -/
  | unsupported (reason : String)
  /-- The settings cannot be used. -/
  | configuration (reason : String)
  /-- The cache cannot be used. -/
  | cache (reason : String)
  /-- Something went wrong inside. -/
  | internal (reason : String)
  /-- Any other cause, in its own words. -/
  | other (message : String)
  deriving DecidableEq, Repr

namespace Failure

/-- The name of the kind of failure. -/
def code : Failure → String
  | .notFound .. => "NOT_FOUND"
  | .validation _ => "VALIDATION_ERROR"
  | .conflict _ => "CONFLICT"
  | .unsupported _ => "UNSUPPORTED"
  | .configuration _ => "CONFIGURATION_ERROR"
  | .cache _ => "CACHE_ERROR"
  | .internal _ => "INTERNAL_ERROR"
  | .other _ => "INTERNAL_ERROR"

/-- The words for a failure. -/
def message : Failure → String
  | .notFound kind id => "Resource not found: " ++ kind ++ " with id " ++ id
  | .validation reason => "Validation error: " ++ reason
  | .conflict reason => "Conflict: " ++ reason
  | .unsupported reason => "Unsupported operation: " ++ reason
  | .configuration reason => "Configuration error: " ++ reason
  | .cache reason => "Cache error: " ++ reason
  | .internal reason => "Internal error: " ++ reason
  | .other message => message

/-- Whether the failure answers what was asked, rather than being a trouble of the system. -/
def answersRequest : Failure → Bool
  | .notFound .. => true
  | .validation _ => true
  | .conflict _ => true
  | _ => false

/-- The failure of reading a JSON text. -/
def ofJson (e : Json.Error) : Failure := .internal ("JSON serialization error: " ++ e.message)

/-- The failure of reading an email address. -/
def ofEmail (e : EmailError) : Failure := .validation e.message

/-- The failure to find a user. -/
def noUser (id : UserId) : Failure := .notFound "User" (String.ofList id.text)

end Failure

end Roster
