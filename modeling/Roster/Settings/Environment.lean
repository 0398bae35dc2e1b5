import Roster.Number.Binary64
import Roster.Number.Word
import Roster.Settings.Value
import Roster.Text.Blank

/-!
# The environment

Variables of the environment, and the settings that they make: a variable whose name starts with
`STRATA__` names a setting by the rest of its name, in which two underscores separate the parts.

* `Environment.settings` are the raw settings that the variables make.
-/

namespace Roster

open Roster.Number Roster.Text

/-- Names of variables with their values; a variable keeps its place when its value changes. -/
abbrev Environment := List (String × String)

namespace Environment

/-- The value of a variable. -/
def get? (env : Environment) (name : String) : Option String := Keyed.get? env name

/-- The environment with a variable set. -/
def set (env : Environment) (name value : String) : Environment :=
  if Keyed.has env name then env.map fun e => if e.1 = name then (name, value) else e
  else env ++ [(name, value)]

/-- The environment without a variable. -/
def unset (env : Environment) (name : String) : Environment := Keyed.erase env name

/-- A text with points in the place of pairs of underscores. -/
def pointed : List Char → List Char
  | '_' :: '_' :: rest => '.' :: pointed rest
  | c :: rest => c :: pointed rest
  | [] => []

/-- What the names of variables that make settings start with, in lower case. -/
def mark : List Char := "strata__".toList

/-- The key of the setting that a variable names. -/
def settingKey? (name : String) : Option String :=
  let name := lower name.toList
  if mark.isPrefixOf name then some (String.ofList (pointed (name.drop mark.length))) else none

/-- The value that a text denotes: a truth value, an integer of 64 bits, a float, or the text. -/
def valueOf (text : String) : Scalar :=
  if lowered text = "true" then .truth true
  else if lowered text = "false" then .truth false
  else match (intOfText? text.toList).filter isSigned with
    | some i => .integer i
    | none =>
      match Binary64.ofText? text.toList with
      | some x => .float x
      | none => .text text

/-- What the environment is called as a source of settings. -/
def sourceName : String := "the environment"

/-- The raw settings that variables make. -/
def settings (env : Environment) : List (String × RawValue) :=
  env.filterMap fun e => (settingKey? e.1).map fun key => (key, .scalar (valueOf e.2) (some sourceName))

end Environment

end Roster
