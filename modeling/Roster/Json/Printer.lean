import Roster.Json.Value

/-!
# Writing JSON

JSON texts without white space. Only what has to be escaped is: quotes, backslashes and the controls
below the space, five of them by a letter and the others by four hexadecimal digits.

* `escapedText`, `list` and `object` write from the texts of the parts.
* `Value.print` writes a value of any shape.
-/

namespace Roster.Json.Print

open Roster.Text

/-- A character as it stands in a JSON text. -/
def escapedChar (c : Char) : List Char :=
  match c with
  | '"' => ['\\', '"']
  | '\\' => ['\\', '\\']
  | '\x08' => ['\\', 'b']
  | '\x0C' => ['\\', 'f']
  | '\n' => ['\\', 'n']
  | '\r' => ['\\', 'r']
  | '\t' => ['\\', 't']
  | _ => if c.toNat < 0x20 then ['\\', 'u'] ++ zeroPadded 4 (hexadecimal c.toNat) else [c]

/-- A text between quotes. -/
def text (s : String) : List Char := '"' :: s.toList.flatMap escapedChar ++ ['"']

/-- A natural number. -/
def natural (n : Nat) : List Char := decimal n

/-- A truth value. -/
def truth (b : Bool) : List Char := if b then "true".toList else "false".toList

/-- The word for no value. -/
def null : List Char := "null".toList

/-- A value or null. -/
def optional {α : Type} (print : α → List Char) : Option α → List Char
  | some a => print a
  | none => null

/-- Texts with commas between them. -/
def commaSeparated : List (List Char) → List Char
  | [] => []
  | [a] => a
  | a :: more => a ++ ',' :: commaSeparated more

/-- A list, from the texts of its elements. -/
def list (items : List (List Char)) : List Char := '[' :: commaSeparated items ++ [']']

/-- An entry of an object, from the text of its value. -/
def entry (e : String × List Char) : List Char := text e.1 ++ ':' :: e.2

/-- An object, from its keys and the texts of their values. -/
def object (entries : List (String × List Char)) : List Char :=
  '{' :: commaSeparated (entries.map entry) ++ ['}']

/-- A number. -/
def numeral : Numeral → List Char
  | .natural n => decimal n
  | .negative i => decimalInt i
  | .float x => x.scientific

end Roster.Json.Print

namespace Roster.Json

mutual

/-- A value of any shape as JSON text. -/
def Value.print : Value → List Char
  | .null => Print.null
  | .bool b => Print.truth b
  | .number x => Print.numeral x
  | .text s => Print.text s
  | .list items => Print.list (Value.printItems items)
  | .object entries => Print.object (Value.printEntries entries)

/-- The JSON texts of the elements of a list. -/
def Value.printItems : List Value → List (List Char)
  | [] => []
  | v :: rest => v.print :: Value.printItems rest

/-- The keys of an object with the JSON texts of their values. -/
def Value.printEntries : List (String × Value) → List (String × List Char)
  | [] => []
  | (key, v) :: rest => (key, v.print) :: Value.printEntries rest

end

end Roster.Json
