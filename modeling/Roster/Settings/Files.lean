import Roster.Keyed
import Roster.Text.Pieces

/-!
# Files

The texts of files under their paths. Paths are relative to where the program runs.

* `pathParts` are the parts that name a file, `shownPath` is how messages name it.
-/

namespace Roster

open Roster.Text

/-- The parts of a path without empty ones and single dots. -/
def plainParts (path : String) : List (List Char) :=
  (pieces '/' path.toList).filter fun part => !part.isEmpty && part != ['.']

/-- Parts with each two dots taken together with the part before; `done` are those before, the last one
first. -/
def foldDots (done : List (List Char)) : List (List Char) → List (List Char)
  | [] => done.reverse
  | part :: rest =>
    if part = ['.', '.'] && done.head?.any (· != ['.', '.']) then foldDots done.tail rest
    else foldDots (part :: done) rest

/-- The parts that name the file at a path. -/
def pathParts (path : String) : List (List Char) :=
  let parts := foldDots [] (plainParts path)
  if path.toList.head? = some '/' then [] :: parts else parts

/-- A path in messages. -/
def shownPath (path : String) : String := String.ofList (join ['/'] (plainParts path))

/-- The path of a file in a directory. -/
def pathIn (dir name : String) : String :=
  if dir.isEmpty || name.toList.head? = some '/' then name else dir ++ "/" ++ name

/-- Files with their texts. -/
abbrev Files := Keyed (List (List Char)) String

namespace Files

/-- The text of a file. -/
def read? (files : Files) (path : String) : Option String := Keyed.get? files (pathParts path)

/-- The files after one has been written. -/
def write (files : Files) (path text : String) : Files := Keyed.put files (pathParts path) text

/-- The files after one has been removed. -/
def remove (files : Files) (path : String) : Files := Keyed.erase files (pathParts path)

end Files

end Roster
