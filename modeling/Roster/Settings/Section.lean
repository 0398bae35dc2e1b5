import Roster.Settings.Basic
import Roster.Settings.Value
import Roster.Text.Quoted

/-!
# Settings from raw settings

Raw settings are turned into the values that sections need. Numbers, truth values and texts stand in
for one another where that makes sense.

* `RawValue.asWord`, `asTruth`, `asText` and `asFormat` read single settings.
* `Section.read` reads a section: a table with its settings, or a list with them in their order.
* `Settings.ofTable` reads all settings.
-/

namespace Roster

open Roster.Number Roster.Text

/-- Why raw settings cannot be used. -/
inductive SettingError where
  /-- A setting is of the wrong kind. -/
  | unfit (found expected key : String) (source : Option String)
  /-- Any other cause, in words. -/
  | plain (message : String)
  deriving DecidableEq, Repr

namespace SettingError

/-- The words for a cause. -/
def message : SettingError → String
  | unfit found expected key source =>
    "invalid type: " ++ found ++ ", expected " ++ expected ++ " for key " ++ Json.ticked key
      ++ source.elim "" (" in " ++ ·)
  | plain message => message

/-- The cause when the setting is part of another one. -/
def under (name : String) : SettingError → SettingError
  | unfit found expected key source =>
    let joined := if key.isEmpty || key.toList.head? = some '[' then name ++ key else name ++ "." ++ key
    unfit found expected joined source
  | e => e

end SettingError

namespace RawValue

/-! ### Single settings -/

/-- A value that is of the wrong kind for a setting, in words, and the source it comes from. -/
def describe : RawValue → String × Option String
  | null => ("unit value", none)
  | scalar (.truth b) source => ("boolean " ++ Json.ticked (String.ofList (Json.Print.truth b)), source)
  | scalar (.integer i) source => ("64-bit integer " ++ Json.ticked (String.ofList (decimalInt i)), source)
  | scalar (.float x) source => ("floating point " ++ Json.ticked (String.ofList x.plain), source)
  | scalar (.text s) source => ("string " ++ quoted s, source)
  | list _ source => ("sequence", source)
  | table _ source => ("map", source)

/-- The error for a value of the wrong kind. -/
def unfit (v : RawValue) (expected : String) : SettingError :=
  .unfit v.describe.1 expected "" v.describe.2

/-- Words for yes. -/
def yesWords : List String := ["true", "on", "yes"]

/-- Words for no. -/
def noWords : List String := ["false", "off", "no"]

/-- The number of 64 bits that a text denotes. -/
def wordOfText? (s : String) : Option Nat :=
  if yesWords.contains (lowered s) then some 1
  else if noWords.contains (lowered s) then some 0
  else (natOfText? s.toList).filter (· ≤ wordMax)

/-- A number of 64 bits. Other numbers are rounded to it. -/
def asWord (v : RawValue) : Except SettingError Nat :=
  match v with
  | scalar (.truth b) _ => .ok b.toNat
  | scalar (.integer i) _ =>
    if i < 0 then .error (v.unfit "an unsigned 64 bit or less integer") else .ok i.toNat
  | scalar (.float x) _ => .ok (x.toNatUpTo wordMax)
  | scalar (.text s) _ =>
    match wordOfText? s with
    | some n => .ok n
    | none => .error (v.unfit "an integer")
  | _ => .error (v.unfit "an integer")

/-- A truth value. Every number but zero counts as true. -/
def asTruth (v : RawValue) : Except SettingError Bool :=
  match v with
  | scalar (.truth b) _ => .ok b
  | scalar (.integer i) _ => .ok (i != 0)
  | scalar (.float x) _ => .ok x.isNonzero
  | scalar (.text s) source =>
    if ("1" :: yesWords).contains (lowered s) then .ok true
    else if ("0" :: noWords).contains (lowered s) then .ok false
    else .error (unfit (.scalar (.text (lowered s)) source) "a boolean")
  | _ => .error (v.unfit "a boolean")

/-- A text. Numbers and truth values are written out. -/
def asText (v : RawValue) : Except SettingError String :=
  match v with
  | scalar (.truth b) _ => .ok (String.ofList (Json.Print.truth b))
  | scalar (.integer i) _ => .ok (String.ofList (decimalInt i))
  | scalar (.float x) _ => .ok (String.ofList x.plain)
  | scalar (.text s) _ => .ok s
  | _ => .error (v.unfit "a string")

/-- The format of a name, the case of which means nothing. -/
def formatOfName (name : String) : Except SettingError LogFormat :=
  match LogFormat.names.find? (·.1 = lowered name) with
  | some e => .ok e.2
  | none => .error (.plain ("enum LogFormat does not have variant constructor " ++ name))

/-- A format of log lines: its name, or a table with the name as its only key. -/
def asFormat (v : RawValue) : Except SettingError LogFormat :=
  match v with
  | scalar (.text s) _ => formatOfName s
  | table [(name, _)] _ => formatOfName name
  | _ => .error (.plain
      "value of enum LogFormat should be represented by either string or table with exactly one key")

/-! ### Sections -/

/-- What is found in the place of a section, in words. -/
def describeForSection : RawValue → String
  | scalar (.integer i) _ => "integer " ++ Json.ticked (String.ofList (decimalInt i))
  | scalar (.float x) _ => "floating point " ++ Json.ticked (String.ofList x.pointed)
  | v => v.describe.1

end RawValue

/-- A setting in a section of type `σ`. -/
structure Setting (σ : Type) where
  name : String
  /-- Puts the value into the section. -/
  read : RawValue → σ → Except SettingError σ
  /-- Whether the setting may be left out. -/
  optional : Bool

/-- A setting that is read by a reader of its own. -/
def Setting.of {σ β : Type} (name : String) (read : RawValue → Except SettingError β)
    (set : σ → β → σ) (optional : Bool) : Setting σ :=
  ⟨name, fun v s => (read v).map (set s), optional⟩

/-- How a section of type `σ` is read: what it is called, its settings, and their defaults. -/
structure Section (σ : Type) where
  title : String
  settings : List (Setting σ)
  start : σ

namespace Section

variable {σ : Type}

/-- Puts the settings that a table has into a section. -/
def readTable (entries : RawValue.Table) : List (Setting σ) → σ → Except SettingError σ
  | [], s => .ok s
  | setting :: rest, s =>
    match Keyed.get? entries setting.name with
    | none => readTable entries rest s
    | some v =>
      match setting.read v s with
      | .ok s => readTable entries rest s
      | .error e => .error (e.under setting.name)

/-- The error for the first setting that a table lacks. -/
def lacking? (entries : RawValue.Table) (settings : List (Setting σ)) : Option SettingError :=
  (settings.find? fun s => !s.optional && !Keyed.has entries s.name).map fun s =>
    .plain ("missing field " ++ Json.ticked s.name)

/-- Puts the values of a list into a section, `index` of which have been read. -/
def readList (title : String) : Nat → List RawValue → List (Setting σ) → σ → Except SettingError σ
  | _, _, [], s => .ok s
  | index, [], setting :: rest, s =>
    if setting.optional then readList title (index + 1) [] rest s
    else .error (.plain ("invalid length " ++ String.ofList (decimal index) ++ ", expected " ++ title))
  | index, v :: values, setting :: rest, s =>
    match setting.read v s with
    | .ok s => readList title (index + 1) values rest s
    | .error e => .error (e.under ("[" ++ String.ofList (decimal index) ++ "]"))

/-- Reads a section. -/
def read (c : Section σ) (v : RawValue) : Except SettingError σ :=
  match v with
  | .table entries _ =>
    match readTable entries c.settings c.start, lacking? entries c.settings with
    | .ok _, some e => .error e
    | r, _ => r
  | .list values _ =>
    let n := c.settings.length
    readList (c.title ++ " with " ++ String.ofList (decimal n)
      ++ (if n = 1 then " element" else " elements")) 0 values c.settings c.start
  | v => .error (.plain ("invalid type: " ++ v.describeForSection ++ ", expected " ++ c.title))

end Section

/-! ### The sections of the settings -/

/-- The section about the application, which has no defaults of its own. -/
def AppSettings.section : Section AppSettings where
  title := "struct AppMetadata"
  settings := [
    .of "name" RawValue.asText ({ · with name := · }) false,
    .of "version" RawValue.asText ({ · with version := · }) false,
    .of "environment" RawValue.asText ({ · with environment := · }) false]
  start := default

/-- The section about the cache. -/
def CacheSettings.section : Section CacheSettings where
  title := "struct CacheConfig"
  settings := [
    .of "enabled" RawValue.asTruth ({ · with enabled := · }) true,
    .of "max_cost" RawValue.asWord ({ · with maxCost := · }) true,
    .of "num_counters" RawValue.asWord ({ · with numCounters := · }) true,
    .of "buffer_items" RawValue.asWord ({ · with bufferItems := · }) true,
    .of "ttl_secs" RawValue.asWord ({ · with ttlSecs := · }) true,
    .of "remote_timeout_ms" RawValue.asWord ({ · with remoteTimeoutMs := · }) true]
  start := default

/-- The section about the remote tier. -/
def RedisSettings.section : Section RedisSettings where
  title := "struct RedisConfig"
  settings := [
    .of "url" RawValue.asText ({ · with url := · }) true,
    .of "pool_size" RawValue.asWord ({ · with poolSize := · }) true,
    .of "enabled" RawValue.asTruth ({ · with enabled := · }) true]
  start := default

/-- The section about storage. -/
def StorageSettings.section : Section StorageSettings where
  title := "struct StorageConfig"
  settings := [.of "in_memory" RawValue.asTruth ({ · with inMemory := · }) true]
  start := default

/-- The section about the log. -/
def LogSettings.section : Section LogSettings where
  title := "struct TelemetryConfig"
  settings := [
    .of "log_level" RawValue.asText ({ · with level := · }) true,
    .of "log_format" RawValue.asFormat ({ · with format := · }) true,
    .of "with_target" RawValue.asTruth ({ · with withTarget := · }) true]
  start := default

namespace Settings

/-- All sections. -/
def sections : Section Settings where
  title := "struct AppConfig"
  settings := [
    .of "app" AppSettings.section.read ({ · with app := · }) true,
    .of "cache" CacheSettings.section.read ({ · with cache := · }) true,
    .of "redis" RedisSettings.section.read ({ · with redis := · }) true,
    .of "storage" StorageSettings.section.read ({ · with storage := · }) true,
    .of "observability" LogSettings.section.read ({ · with observability := · }) true]
  start := default

/-- Reads all settings. -/
def ofTable (t : RawValue.Table) : Except SettingError Settings := sections.read (.table t none)

end Settings

end Roster
