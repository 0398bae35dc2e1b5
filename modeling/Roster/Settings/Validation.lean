import Roster.Error
import Roster.Net.Url
import Roster.Settings.Basic
import Roster.Text.Blank
import Roster.Text.Lowercase

/-!
# Checking settings

Settings are checked as a whole: all faults are reported together. What is switched off is not
checked.

* `Settings.faults` are the faults, `Settings.check` turns them into a failure.
-/

namespace Roster

open Roster.Net Roster.Text

/-- What is wrong with settings. -/
inductive SettingsFault where
  /-- A number that has to be positive is zero. -/
  | notPositive (name : String)
  /-- A time that has to be positive is zero. -/
  | noTime (name : String)
  /-- There are too many connections. -/
  | poolTooLarge (size limit : Nat)
  /-- An address is not well formed. -/
  | badUrl (kind reason : String)
  /-- There is no such log level. -/
  | badLogLevel (level : String)
  /-- The application has no name. -/
  | noAppName
  deriving DecidableEq, Repr

namespace SettingsFault

/-- The words for a fault. -/
def message : SettingsFault → String
  | notPositive name => "'" ++ name ++ "' must be greater than zero"
  | noTime name => "Timeout '" ++ name ++ "' must be positive"
  | poolTooLarge size limit =>
    "Pool size " ++ String.ofList (decimal size) ++ " exceeds maximum allowed ("
      ++ String.ofList (decimal limit) ++ ")"
  | badUrl kind reason => "Invalid " ++ kind ++ " URL: " ++ reason
  | badLogLevel level =>
    "Invalid log level: '" ++ level ++ "' (valid: trace, debug, info, warn, error)"
  | noAppName => "Application name must not be empty"

end SettingsFault

/-- The greatest number of connections to the remote tier. -/
def poolLimit : Nat := 1000

/-- The log levels. -/
def logLevels : List String := ["trace", "debug", "info", "warn", "error"]

/-- A fault if a condition holds. -/
def faultIf (b : Bool) (f : SettingsFault) : List SettingsFault := if b then [f] else []

/-- The faults of the section about the application. -/
def AppSettings.faults (s : AppSettings) : List SettingsFault := faultIf (allBlank s.name) .noAppName

/-- The faults of the section about the cache. -/
def CacheSettings.faults (s : CacheSettings) : List SettingsFault :=
  if !s.enabled then []
  else
    faultIf (s.maxCost = 0) (.notPositive "cache.max_cost")
      ++ faultIf (s.numCounters = 0) (.notPositive "cache.num_counters")
      ++ faultIf (s.bufferItems = 0) (.notPositive "cache.buffer_items")
      ++ faultIf (s.ttlSecs = 0) (.noTime "cache.ttl_secs")
      ++ faultIf (s.remoteTimeoutMs = 0) (.noTime "cache.remote_timeout_ms")

/-- What is wrong with the address of the remote tier. -/
def redisUrlFault? (url : String) : Option SettingsFault :=
  match Url.ofText url.toList with
  | .error e => some (.badUrl "redis" e.message)
  | .ok u =>
    if u.scheme = "redis".toList || u.scheme = "rediss".toList then none
    else some (.badUrl "redis" "URL must start with redis:// or rediss://")

/-- The faults of the section about the remote tier. -/
def RedisSettings.faults (s : RedisSettings) : List SettingsFault :=
  if !s.enabled then []
  else
    (redisUrlFault? s.url).toList
      ++ faultIf (s.poolSize = 0) (.notPositive "redis.pool_size")
      ++ faultIf (poolLimit < s.poolSize) (.poolTooLarge s.poolSize poolLimit)

/-- The faults of the section about the log. -/
def LogSettings.faults (s : LogSettings) : List SettingsFault :=
  faultIf (!logLevels.contains (lowered s.level)) (.badLogLevel s.level)

namespace Settings

/-- The faults of settings. -/
def faults (s : Settings) : List SettingsFault :=
  s.app.faults ++ s.cache.faults ++ s.redis.faults ++ s.observability.faults

/-- The failure for faults. -/
def faultsFailure (faults : List SettingsFault) : Failure :=
  .configuration ("; ".intercalate (faults.map SettingsFault.message))

/-- Nothing, or the failure for what is wrong with settings. -/
def check (s : Settings) : Except Failure Unit :=
  if s.faults.isEmpty then .ok () else .error (faultsFailure s.faults)

end Settings

end Roster
