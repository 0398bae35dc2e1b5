import Roster.Settings.Dotenv
import Roster.Settings.Files
import Roster.Settings.Path
import Roster.Settings.Section
import Roster.Settings.Validation

/-!
# Loading settings

Settings come from three files and from the environment. Each source is laid on the ones before it:
the defaults, `default.toml`, the file of the present environment, `local.toml`, and the variables of
the environment. Before that, variables that are not set may be set by the file `.env`.

* `Settings.load` loads settings; only what `.env` sets stays when it fails.
* A `Loader` holds the settings that were loaded last. It keeps them when they cannot be loaded again.
-/

namespace Roster

open Roster.Text

/-- Where settings are found: the files and the environment. -/
structure Place where
  files : Files
  environment : Environment

/-- The variable that names the environment. -/
def environmentVariable : String := "STRATA_ENVIRONMENT"

/-- The name of the environment. -/
def Environment.name (env : Environment) : String := (env.get? environmentVariable).getD "development"

/-- The names of the files with settings, those that count less first. -/
def Environment.fileNames (env : Environment) : List String := ["default", env.name, "local"]

/-- Where a file with settings is. -/
def settingsPath (dir name : String) : String := pathIn dir (name ++ ".toml")

/-- Whether a path has a file name in front of its ending. -/
def hasStem (path : String) : Bool := (pieces '/' path.toList).getLast? != some ".toml".toList

/-- The raw settings in a file. -/
def fileSettings (path text : String) : Except Failure (List (String × RawValue)) :=
  let cs := text.toList
  match Toml.document? (if cs.head? = some '\uFEFF' then cs.tail else cs) with
  | some entries => .ok (RawValue.ofEntries (shownPath path) entries)
  | none => .error (.configuration ("TOML parse error in " ++ shownPath path))

/-- Lays the settings of files on a table. Files that are not there are passed over. -/
def layFiles (dir : String) (files : Files) : List String → RawValue.Table → Except Failure RawValue.Table
  | [], t => .ok t
  | name :: rest, t =>
    let path := settingsPath dir name
    match if hasStem path then files.read? path else none with
    | none => layFiles dir files rest t
    | some text =>
      match fileSettings path text with
      | .error e => .error e
      | .ok entries => layFiles dir files rest (RawValue.assignAll t entries)

namespace Settings

/-- The raw settings of all sources together. -/
def rawSettings (dir : String) (files : Files) (env : Environment) : Except Failure RawValue.Table := do
  return RawValue.assignAll (← layFiles dir files env.fileNames []) env.settings

/-- The settings of all sources together, if they pass the checks. -/
def ofPlace (dir : String) (p : Place) : Except Failure Settings := do
  let t ← rawSettings dir p.files p.environment
  match ofTable t with
  | .error e => throw (.configuration e.message)
  | .ok s => do
    s.check
    return s

end Settings

/-- The place after `.env` has been read. -/
def Place.prepared (p : Place) : Place :=
  match p.files.read? ".env" with
  | some text => { p with environment := p.environment.load text }
  | none => p

/-- Loads settings from a directory. -/
def Settings.load (dir : String) (p : Place) : Except Failure Settings × Place :=
  (Settings.ofPlace dir p.prepared, p.prepared)

/-- What has been loaded from a directory. -/
structure Loader where
  dir : String
  current : Settings

namespace Loader

/-- The directory with the files unless another one is named. -/
def usualDir : String := "./config"

/-- A loader with the settings of a directory. -/
def load (dir : String) (p : Place) : Except Failure Loader × Place :=
  let (settings, p) := Settings.load dir p
  (settings.map fun s => ⟨dir, s⟩, p)

/-- Loads the settings again. -/
def reload (l : Loader) (p : Place) : (Except Failure Unit × Loader) × Place :=
  let (settings, p) := Settings.load l.dir p
  match settings with
  | .ok s => ((.ok (), { l with current := s }), p)
  | .error e => ((.error e, l), p)

end Loader

end Roster
