import Roster.Json.Printer
import Roster.Settings.Basic
import Roster.Text.Quoted

/-!
# Log lines

What the program tells about its work. An event says at which level and about which part of the
program it is, and it may carry fields besides its message. The settings decide how it is written.

* `LogSettings.line` writes an event without its time.
-/

namespace Roster.Log

open Roster.Json Roster.Text

/-- How important an event is, the most important first. -/
inductive Level where
  | error
  | warn
  | info
  | debug
  | trace
  deriving DecidableEq, Repr

namespace Level

/-- The level in log lines. -/
def name : Level → String
  | error => "ERROR"
  | warn => "WARN"
  | info => "INFO"
  | debug => "DEBUG"
  | trace => "TRACE"

/-- How many levels are as important or more. -/
def rank : Level → Nat
  | error => 1
  | warn => 2
  | info => 3
  | debug => 4
  | trace => 5

end Level

/-- A field of an event. -/
structure Field where
  name : String
  value : String
  /-- Whether the value stands between quotes in lines that are not JSON. -/
  isQuoted : Bool
  deriving DecidableEq, Repr

/-- An event. -/
structure Event where
  level : Level
  target : String
  message : String
  fields : List Field
  deriving DecidableEq, Repr

namespace Event

/-- What the message is called among the fields. -/
def messageField : String := "message"

/-- An event at the usual level with a message alone. -/
def info (target message : String) : Event := ⟨.info, target, message, []⟩

/-- The names of all fields. -/
def fieldNames (e : Event) : List String := messageField :: e.fields.map Field.name

/-- The event as a line of text. -/
def text (withTarget : Bool) (e : Event) : List Char :=
  (e.level.name ++ " " ++ (if withTarget then e.target ++ ": " else "") ++ e.message).toList
    ++ e.fields.flatMap fun f =>
      (" " ++ f.name ++ "=" ++ if f.isQuoted then quoted f.value else f.value).toList

/-- The event as a JSON object. -/
def json (withTarget : Bool) (e : Event) : List Char :=
  let fields := (messageField, e.message) :: e.fields.map fun f => (f.name, f.value)
  Print.object <|
    [("level", Print.text e.level.name),
      ("fields", Print.object (fields.map fun f => (f.1, Print.text f.2)))]
      ++ if withTarget then [("target", Print.text e.target)] else []

end Event

end Roster.Log

namespace Roster

/-- An event as a line in the set format. -/
def LogSettings.line (s : LogSettings) (e : Log.Event) : List Char :=
  match s.format with
  | .pretty => e.text s.withTarget
  | .json => e.json s.withTarget

end Roster
