import Roster.Settings.Environment
import Roster.Text.Letters

/-!
# Files of variables

A file may set variables of the environment that are not set yet. Its lines have the form
`NAME=value`, with `export` before it if wanted; values may be quoted, and other variables may be named
in them after a dollar sign.

* `joinedLines` finds the lines of a file: a quoted value may go on over several ones.
* `assignment` reads a line, `lineValue` the value in it.
* `Environment.load` sets the variables of a file. It stops at the first line that is not well formed;
  what has been set by then stays.
-/

namespace Roster.Dotenv

open Roster.Text

/-! ### Lines -/

/-- Where a line stands with its quotes. -/
inductive Quoting where
  | outside
  | afterBlank
  | escape
  | single
  | singleEscape
  | double
  | doubleEscape
  deriving DecidableEq, Repr

/-- What a character does outside of quotes. -/
def Quoting.open (c : Char) : Quoting :=
  if c = '\\' then .escape else if c = '"' then .double else if c = '\'' then .single else .outside

/-- What a character does. -/
def Quoting.step (q : Quoting) (c : Char) : Quoting :=
  match q with
  | .outside => if isBlank c && c != '\n' && c != '\r' then .afterBlank else .open c
  | .afterBlank => .open c
  | .escape => .outside
  | .single => if c = '\\' then .singleEscape else if c = '\'' then .outside else .single
  | .singleEscape => .single
  | .double => if c = '\\' then .doubleEscape else if c = '"' then .outside else .double
  | .doubleEscape => .double

/-- The quotes at the end of a line, or the text before a comment, which starts after a blank. -/
def scanLine (before : List Char) (q : Quoting) : List Char → Except (List Char) Quoting
  | [] => .ok q
  | c :: rest =>
    if q = .afterBlank && c = '#' then .error before.reverse
    else scanLine (c :: before) (q.step c) rest

/-- The lines of a text with the ends of lines in them. -/
def rawLines : List Char → List (List Char)
  | [] => []
  | c :: rest =>
    if c = '\n' then [c] :: rawLines rest
    else match rawLines rest with
      | [] => [[c]]
      | line :: more => (c :: line) :: more

/-- A line without the end of line in it. -/
def withoutEnd (line : List Char) : List Char :=
  match line.reverse with
  | '\n' :: '\r' :: rest => rest.reverse
  | '\n' :: rest => rest.reverse
  | _ => line

/-- The lines of a file, those with open quotes joined; `none` stands for quotes left open at the end.
`begun` is what has been read of the present line. -/
def joinedLines (begun : List Char) (q : Quoting) : List (List Char) → List (Option (List Char))
  | [] => if q = .outside then [] else [none]
  | line :: rest =>
    let whole := begun ++ line
    if (trimLeft whole).head? = some '#' then some [] :: joinedLines [] .outside rest
    else match scanLine [] q line with
      | .error kept => some (begun ++ kept) :: joinedLines [] .outside rest
      | .ok .outside => some (withoutEnd whole) :: joinedLines [] .outside rest
      | .ok q => joinedLines whole q rest

/-! ### Values -/

/-- How the name of a variable is being read. -/
inductive Naming where
  | none
  | bare
  | braced
  deriving DecidableEq, Repr

/-- A value as far as it has been read, with its text and the name of a variable backwards. -/
structure Draft where
  text : List Char := []
  name : List Char := []
  naming : Naming := .none
  single : Bool := false
  double : Bool := false
  escaped : Bool := false
  /-- Whether a blank has ended the value. -/
  ended : Bool := false

namespace Draft

/-- Adds a character to the text. -/
def push (d : Draft) (c : Char) : Draft := { d with text := c :: d.text }

/-- Puts the value of the variable whose name has been read into the text. -/
def fill (lookUp : String → String) (d : Draft) : Draft :=
  { d with
    text := (lookUp (String.ofList d.name.reverse)).toList.reverse ++ d.text
    name := []
    naming := .none }

/-- Reads a character of the name of a variable. -/
def nameStep (lookUp : String → String) (d : Draft) (c : Char) : Draft :=
  if isLetterOrDigit c then { d with name := c :: d.name }
  else if d.naming = .braced then
    if c = '}' then d.fill lookUp else { d with name := c :: d.name }
  else if c = '{' && d.name.isEmpty then { d with naming := .braced }
  else if c = '$' then { d.fill lookUp with naming := .bare }
  else (d.fill lookUp).push c

/-- Reads a character of a value. -/
def step (lookUp : String → String) (d : Draft) (c : Char) : Option Draft :=
  if d.ended then if c = ' ' || c = '\t' then some d else none
  else if d.escaped then
    let d := { d with escaped := false }
    if ['\\', '\'', '"', '$', ' '].contains c then some (d.push c)
    else if c = 'n' then some (d.push '\n')
    else none
  else if d.single then some (if c = '\'' then { d with single := false } else d.push c)
  else if d.naming != .none then some (d.nameStep lookUp c)
  else if c = '$' then some { d with naming := .bare }
  else if c = '\\' then some { d with escaped := true }
  else if d.double then some (if c = '"' then { d with double := false } else d.push c)
  else if c = '\'' then some { d with single := true }
  else if c = '"' then some { d with double := true }
  else if c = ' ' || c = '\t' then some { d with ended := true }
  else some (d.push c)

/-- The whole value, if nothing is open. -/
def finish (lookUp : String → String) (d : Draft) : Option String :=
  if d.naming = .braced || d.single || d.double then Option.none
  else some (String.ofList (d.fill lookUp).text.reverse)

/-- Reads what is left of a value. A comment may follow after a blank. -/
def run (lookUp : String → String) (d : Draft) : List Char → Option String
  | [] => d.finish lookUp
  | c :: rest =>
    if d.ended && c = '#' then d.finish lookUp
    else match d.step lookUp c with
      | some d => d.run lookUp rest
      | Option.none => Option.none

end Draft

/-- The value at the end of a line. -/
def lineValue (lookUp : String → String) (cs : List Char) : Option String :=
  if cs.isEmpty || cs.head? = some '#' then some "" else ({} : Draft).run lookUp cs

/-! ### Assignments -/

/-- The name at the start of a text. -/
def splitName (cs : List Char) : Option (List Char × List Char) :=
  let inName (c : Char) : Bool := isLatin c || isDigit c || c = '_' || c = '.'
  if cs.head?.any fun c => isLatin c || c = '_' then
    some (cs.takeWhile inName, trimLeft (cs.dropWhile inName))
  else none

/-- The text after an equals sign, without blanks. -/
def afterEquals? : List Char → Option (List Char)
  | '=' :: rest => some (trimLeft rest)
  | _ => none

/-- The name that a line gives a value to, and what follows the equals sign. The word `export` may stand
before the name. -/
def splitEquals (cs : List Char) : Option (List Char × List Char) := do
  let (name, rest) ← splitName cs
  match afterEquals? rest with
  | some value => some (name, value)
  | none =>
    if name = "export".toList then do
      let (name, rest) ← splitName rest
      some (name, ← afterEquals? rest)
    else none

/-- The variable that a line sets and its value; nothing for a line without one. -/
def assignment (lookUp : String → String) (line : List Char) : Option (Option (String × String)) :=
  let line := trim line
  if line.isEmpty || line.head? = some '#' then some none
  else do
    let (name, rest) ← splitEquals line
    some (some (String.ofList name, ← lineValue lookUp rest))

/-- The value that a name after a dollar sign stands for: that of the variable, or else the one given to
it in the file. -/
def lookUp (env given : Environment) (name : String) : String :=
  ((env.get? name).orElse fun _ => given.get? name).getD ""

/-- Sets the variables of lines. `given` are those that the file has named before. -/
def setLines (given : Environment) : List (Option (List Char)) → Environment → Environment
  | [], env => env
  | none :: _, env => env
  | some line :: rest, env =>
    match assignment (lookUp env given) line with
    | none => env
    | some none => setLines given rest env
    | some (some (name, value)) =>
      setLines (given.set name value) rest (if (env.get? name).isSome then env else env.set name value)

end Dotenv

namespace Environment

/-- Sets the variables of a file that are not set yet. -/
def load (env : Environment) (text : String) : Environment :=
  let cs := text.toList
  let cs := if cs.head? = some '\uFEFF' then cs.tail else cs
  Dotenv.setLines [] (Dotenv.joinedLines [] .outside (Dotenv.rawLines cs)) env

end Environment

end Roster
