import Roster.Program
import Roster.Settings.Loader

/-!
# Loaders and their copies

A loader can be copied, and the copies share what was loaded: what one of them loads again, all of them
give. Loaders and their copies go by numbers, in the order in which they were made.

* `Loaders` are the loaders made so far and the place that they load from.
* `Loaders.handle` is what making, copying, asking and reloading them does, and what a change to a file
  or to a variable does.
-/

namespace Roster

/-- The loaders made so far in a place. `parts` says which of those in `loaded` each of them and of their
copies stands for. -/
structure Loaders where
  place : Place
  loaded : List Loader
  parts : List Nat

/-- What is done with loaders, and to the place that they load from. -/
inductive LoaderAct where
  /-- A file gets a text. -/
  | write (path text : String)
  /-- A file goes. -/
  | remove (path : String)
  /-- A variable gets a value. -/
  | set (name value : String)
  /-- A variable goes. -/
  | unset (name : String)
  /-- A loader is made for a directory. -/
  | load (dir : String)
  /-- A loader is copied. -/
  | copy (who : Nat)
  /-- A loader is asked for its settings. -/
  | current (who : Nat)
  /-- A loader loads its settings again. -/
  | reload (who : Nat)

/-- What an act is answered. A loader that is not there gives nothing. -/
abbrev LoaderAct.Answer : LoaderAct → Type
  | .write .. | .remove .. | .set .. | .unset .. => Unit
  | .load _ => Except Failure Nat
  | .copy _ => Option Nat
  | .current _ => Option Settings
  | .reload _ => Option (Except Failure Unit)

namespace Loaders

/-- A place without loaders. -/
def start (p : Place) : Loaders := ⟨p, [], []⟩

/-- What a loader or a copy stands for. -/
def loader? (s : Loaders) (who : Nat) : Option Loader := s.parts[who]?.bind fun part => s.loaded[part]?

/-- The settings that a loader gives. -/
def current? (s : Loaders) (who : Nat) : Option Settings := (s.loader? who).map (·.current)

/-- The loaders after a change to their place. -/
def movedTo (s : Loaders) (p : Place) : Loaders := { s with place := p }

/-- The loaders with a new one, if there is one, and the place after it was loaded. -/
def join (s : Loaders) (p : Place) : Except Failure Loader → Except Failure Nat × Loaders
  | .ok l => (.ok s.parts.length, ⟨p, s.loaded ++ [l], s.parts ++ [s.loaded.length]⟩)
  | .error e => (.error e, s.movedTo p)

/-- Makes a loader. -/
def load (s : Loaders) (dir : String) : Except Failure Nat × Loaders :=
  let r := Loader.load dir s.place
  s.join r.2 r.1

/-- Copies a loader. -/
def copy (s : Loaders) (who : Nat) : Option Nat × Loaders :=
  match s.parts[who]? with
  | some part => (some s.parts.length, { s with parts := s.parts ++ [part] })
  | none => (none, s)

/-- Lets a loader load its settings again, for itself and for all that share them. -/
def reload (s : Loaders) (who : Nat) : Option (Except Failure Unit) × Loaders :=
  match s.parts[who]?, s.loader? who with
  | some part, some l =>
    let r := l.reload s.place
    (some r.1.1, { s with place := r.2, loaded := s.loaded.set part r.1.2 })
  | _, _ => (none, s)

/-- What an act is answered and what it does. -/
def handle : Program.Handler LoaderAct LoaderAct.Answer Loaders
  | .write path text, s =>
    ((), s.movedTo { s.place with files := s.place.files.write path text })
  | .remove path, s => ((), s.movedTo { s.place with files := s.place.files.remove path })
  | .set name value, s =>
    ((), s.movedTo { s.place with environment := s.place.environment.set name value })
  | .unset name, s => ((), s.movedTo { s.place with environment := s.place.environment.unset name })
  | .load dir, s => s.load dir
  | .copy who, s => s.copy who
  | .current who, s => (s.current? who, s)
  | .reload who, s => s.reload who

end Loaders

end Roster
