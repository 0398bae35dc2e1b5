import Roster.Json.Error
import Roster.Time.Duration

/-!
# Troubles of a cache

What a tier of the cache can answer instead of a value. A miss is the expected one; the others are
never shown to those who ask.
-/

namespace Roster.Cache

open Roster.Time

/-- Why a tier gives no value. -/
inductive Trouble where
  /-- There is no entry. -/
  | miss
  /-- The tier cannot be reached. -/
  | unavailable (reason : String)
  /-- The tier did not answer in time. -/
  | timeout (after : Duration)
  /-- The entry cannot be read. -/
  | unreadable (reason : Json.Error)
  deriving DecidableEq, Repr

namespace Trouble

/-- Whether the trouble is only that there is no entry. -/
def isMiss : Trouble → Bool
  | .miss => true
  | _ => false

/-- The words for a trouble. -/
def message : Trouble → String
  | .miss => "cache miss"
  | .unavailable reason => "remote cache unavailable: " ++ reason
  | .timeout after => "remote cache call timed out after " ++ String.ofList after.text
  | .unreadable reason => "cache serialization error: " ++ reason.message

end Trouble

end Roster.Cache
