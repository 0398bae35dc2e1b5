import Roster.Json.Choice
import Roster.Json.Printer
import Roster.Json.Record
import Roster.Number.Word
import Roster.Time.Duration

/-!
# Settings

What can be set about the program, in five sections, with the values that hold when nothing is set.

* `Settings.reader` reads settings from JSON and `Settings.json` writes them. In JSON each section may
  be left out or given in part, but for the section about the application, which has to be whole.
-/

namespace Roster

open Roster.Json Roster.Number Roster.Time

/-! ### Sections -/

/-- What the application is called. -/
structure AppSettings where
  name : String
  version : String
  environment : String
  deriving DecidableEq, Repr

/-- How the cache works. -/
structure CacheSettings where
  enabled : Bool
  maxCost : Nat
  numCounters : Nat
  bufferItems : Nat
  ttlSecs : Nat
  remoteTimeoutMs : Nat
  deriving DecidableEq, Repr

/-- Where the remote tier of the cache is. -/
structure RedisSettings where
  url : String
  poolSize : Nat
  enabled : Bool
  deriving DecidableEq, Repr

/-- Where the users are kept. -/
structure StorageSettings where
  inMemory : Bool
  deriving DecidableEq, Repr

/-- How log lines look. -/
inductive LogFormat where
  | pretty
  | json
  deriving DecidableEq, Repr

/-- What is logged. -/
structure LogSettings where
  level : String
  format : LogFormat
  withTarget : Bool
  deriving DecidableEq, Repr

/-- All settings. -/
structure Settings where
  app : AppSettings
  cache : CacheSettings
  redis : RedisSettings
  storage : StorageSettings
  observability : LogSettings
  deriving DecidableEq, Repr

/-! ### Defaults -/

/-- The version of the program. -/
def programVersion : String := "0.1.0"

/-- The application as it is called by default. -/
def AppSettings.default : AppSettings := ⟨"strata", programVersion, "development"⟩

/-- The cache by default: switched on, for five minutes. -/
def CacheSettings.default : CacheSettings := ⟨true, 10000, 100000, 64, 300, 250⟩

/-- The remote tier by default: switched off. -/
def RedisSettings.default : RedisSettings := ⟨"redis://localhost:6379", 10, false⟩

/-- Users are kept in memory by default. -/
def StorageSettings.default : StorageSettings := ⟨true⟩

/-- The log by default. -/
def LogSettings.default : LogSettings := ⟨"info", .pretty, true⟩

/-- The settings when nothing is set. -/
def Settings.default : Settings := ⟨.default, .default, .default, .default, .default⟩

/-- How long entries are kept in the cache. -/
def CacheSettings.ttl (c : CacheSettings) : Duration := .ofSeconds c.ttlSecs

/-- How long the remote tier may take to answer. -/
def CacheSettings.remoteTimeout (c : CacheSettings) : Duration := .ofMillis c.remoteTimeoutMs

/-- The names of the formats of log lines. -/
def LogFormat.names : List (String × LogFormat) := [("pretty", .pretty), ("json", .json)]

/-- The name of a format. -/
def LogFormat.name : LogFormat → String
  | .pretty => "pretty"
  | .json => "json"

/-! ### JSON -/

/-- A number of 64 bits. -/
def wordReader : Reader Nat := natural wordMax "u64"

namespace AppSettings

/-- The section as JSON text. -/
def json (s : AppSettings) : List Char :=
  Print.object [("name", Print.text s.name), ("version", Print.text s.version),
    ("environment", Print.text s.environment)]

/-- The section as far as it has been read. -/
structure Draft where
  name : Option String := none
  version : Option String := none
  environment : Option String := none

/-- How the section is read. -/
def record : Record Draft AppSettings where
  title := "struct AppMetadata"
  fields := [
    .of "name" text Draft.name ({ · with name := some · }) none,
    .of "version" text Draft.version ({ · with version := some · }) none,
    .of "environment" text Draft.environment ({ · with environment := some · }) none]
  blank := {}
  finish d := do
    return { name := ← required "name" d.name, version := ← required "version" d.version,
             environment := ← required "environment" d.environment }

end AppSettings

namespace CacheSettings

/-- The section as JSON text. -/
def json (s : CacheSettings) : List Char :=
  Print.object [("enabled", Print.truth s.enabled), ("max_cost", Print.natural s.maxCost),
    ("num_counters", Print.natural s.numCounters), ("buffer_items", Print.natural s.bufferItems),
    ("ttl_secs", Print.natural s.ttlSecs), ("remote_timeout_ms", Print.natural s.remoteTimeoutMs)]

/-- The section as far as it has been read. -/
structure Draft where
  enabled : Option Bool := none
  maxCost : Option Nat := none
  numCounters : Option Nat := none
  bufferItems : Option Nat := none
  ttlSecs : Option Nat := none
  remoteTimeoutMs : Option Nat := none

/-- How the section is read. -/
def record : Record Draft CacheSettings where
  title := "struct CacheConfig"
  fields := [
    .of "enabled" truth Draft.enabled ({ · with enabled := some · }) (some default.enabled),
    .of "max_cost" wordReader Draft.maxCost ({ · with maxCost := some · }) (some default.maxCost),
    .of "num_counters" wordReader Draft.numCounters ({ · with numCounters := some · })
      (some default.numCounters),
    .of "buffer_items" wordReader Draft.bufferItems ({ · with bufferItems := some · })
      (some default.bufferItems),
    .of "ttl_secs" wordReader Draft.ttlSecs ({ · with ttlSecs := some · }) (some default.ttlSecs),
    .of "remote_timeout_ms" wordReader Draft.remoteTimeoutMs ({ · with remoteTimeoutMs := some · })
      (some default.remoteTimeoutMs)]
  blank := {}
  finish d := .ok {
    enabled := d.enabled.getD default.enabled
    maxCost := d.maxCost.getD default.maxCost
    numCounters := d.numCounters.getD default.numCounters
    bufferItems := d.bufferItems.getD default.bufferItems
    ttlSecs := d.ttlSecs.getD default.ttlSecs
    remoteTimeoutMs := d.remoteTimeoutMs.getD default.remoteTimeoutMs }

/-- Reads the section from JSON. -/
def reader : Reader CacheSettings := record.reader

end CacheSettings

namespace RedisSettings

/-- The section as JSON text. -/
def json (s : RedisSettings) : List Char :=
  Print.object [("url", Print.text s.url), ("pool_size", Print.natural s.poolSize),
    ("enabled", Print.truth s.enabled)]

/-- The section as far as it has been read. -/
structure Draft where
  url : Option String := none
  poolSize : Option Nat := none
  enabled : Option Bool := none

/-- How the section is read. -/
def record : Record Draft RedisSettings where
  title := "struct RedisConfig"
  fields := [
    .of "url" text Draft.url ({ · with url := some · }) (some default.url),
    .of "pool_size" (natural wordMax "usize") Draft.poolSize ({ · with poolSize := some · })
      (some default.poolSize),
    .of "enabled" truth Draft.enabled ({ · with enabled := some · }) (some default.enabled)]
  blank := {}
  finish d := .ok {
    url := d.url.getD default.url
    poolSize := d.poolSize.getD default.poolSize
    enabled := d.enabled.getD default.enabled }

/-- Reads the section from JSON. -/
def reader : Reader RedisSettings := record.reader

end RedisSettings

namespace StorageSettings

/-- The section as JSON text. -/
def json (s : StorageSettings) : List Char := Print.object [("in_memory", Print.truth s.inMemory)]

/-- The section as far as it has been read. -/
structure Draft where
  inMemory : Option Bool := none

/-- How the section is read. -/
def record : Record Draft StorageSettings where
  title := "struct StorageConfig"
  fields := [
    .of "in_memory" truth Draft.inMemory ({ · with inMemory := some · }) (some default.inMemory)]
  blank := {}
  finish d := .ok { inMemory := d.inMemory.getD default.inMemory }

end StorageSettings

namespace LogSettings

/-- The section as JSON text. -/
def json (s : LogSettings) : List Char :=
  Print.object [("log_level", Print.text s.level), ("log_format", Print.text s.format.name),
    ("with_target", Print.truth s.withTarget)]

/-- The section as far as it has been read. -/
structure Draft where
  level : Option String := none
  format : Option LogFormat := none
  withTarget : Option Bool := none

/-- How the section is read. -/
def record : Record Draft LogSettings where
  title := "struct TelemetryConfig"
  fields := [
    .of "log_level" text Draft.level ({ · with level := some · }) (some default.level),
    .of "log_format" (choice LogFormat.names) Draft.format ({ · with format := some · })
      (some default.format),
    .of "with_target" truth Draft.withTarget ({ · with withTarget := some · })
      (some default.withTarget)]
  blank := {}
  finish d := .ok {
    level := d.level.getD default.level
    format := d.format.getD default.format
    withTarget := d.withTarget.getD default.withTarget }

/-- Reads the section from JSON. -/
def reader : Reader LogSettings := record.reader

end LogSettings

namespace Settings

/-- The settings as JSON text. -/
def json (s : Settings) : List Char :=
  Print.object [("app", s.app.json), ("cache", s.cache.json), ("redis", s.redis.json),
    ("storage", s.storage.json), ("observability", s.observability.json)]

/-- The settings as far as they have been read. -/
structure Draft where
  app : Option AppSettings := none
  cache : Option CacheSettings := none
  redis : Option RedisSettings := none
  storage : Option StorageSettings := none
  observability : Option LogSettings := none

/-- How the settings are read. -/
def record : Record Draft Settings where
  title := "struct AppConfig"
  fields := [
    .of "app" AppSettings.record.reader Draft.app ({ · with app := some · }) (some default.app),
    .of "cache" CacheSettings.reader Draft.cache ({ · with cache := some · }) (some default.cache),
    .of "redis" RedisSettings.reader Draft.redis ({ · with redis := some · }) (some default.redis),
    .of "storage" StorageSettings.record.reader Draft.storage ({ · with storage := some · })
      (some default.storage),
    .of "observability" LogSettings.reader Draft.observability ({ · with observability := some · })
      (some default.observability)]
  blank := {}
  finish d := .ok {
    app := d.app.getD default.app
    cache := d.cache.getD default.cache
    redis := d.redis.getD default.redis
    storage := d.storage.getD default.storage
    observability := d.observability.getD default.observability }

/-- Reads settings from JSON. -/
def reader : Reader Settings := record.reader

end Settings

end Roster
