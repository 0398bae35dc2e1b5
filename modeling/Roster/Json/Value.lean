import Roster.Json.Reader

/-!
# JSON values of any shape

A value that is read without knowing its shape. The entries of an object are kept in the order of
their keys, each key once.

* `Value.reader` reads a value; its recursion is on the depth of nesting that is still allowed.
* `insertEntry` keeps the entries ordered; a later entry replaces an earlier one of the same key.
-/

namespace Roster.Json

/-- A JSON value. -/
inductive Value where
  | null
  | bool (b : Bool)
  | number (x : Numeral)
  | text (s : String)
  | list (items : List Value)
  | object (entries : List (String × Value))
  deriving Repr

/-- Whether a text comes before another in the order of their characters. -/
def textBefore (s t : String) : Bool := decide (s < t)

/-- Puts an entry in its place among entries that are ordered by their keys. -/
def insertEntry {α : Type} (key : String) (a : α) : List (String × α) → List (String × α)
  | [] => [(key, a)]
  | (k, b) :: rest =>
    if k = key then (key, a) :: rest
    else if textBefore key k then (key, a) :: (k, b) :: rest
    else (k, b) :: insertEntry key a rest

/-- What a value is as something found where something else was expected. -/
def Value.found : Value → Found
  | .null => .null
  | .bool b => .bool b
  | .number x => x.found
  | .text s => .text s
  | .list _ => .sequence
  | .object _ => .map

/-- Reads a value that is neither a list nor an object. -/
def Value.single : Scan Value := fun cs =>
  match skipBlanks cs with
  | [] => .error .eofInValue
  | 'n' :: rest => afterWord "ull" .null rest
  | 't' :: rest => afterWord "rue" (.bool true) rest
  | 'f' :: rest => afterWord "alse" (.bool false) rest
  | '"' :: rest => (Value.text <$> textRest) rest
  | c :: rest =>
    if startsNumber c then (Json.number (c :: rest)).map fun r => (.number r.1, r.2)
    else .error .expectedValue

/-- Reads a value of any shape. -/
def Value.reader : Reader Value
  | 0, cs =>
    match skipBlanks cs with
    | '[' :: _ => .error .tooDeep
    | '{' :: _ => .error .tooDeep
    | other => Value.single other
  | depth + 1, cs =>
    match skipBlanks cs with
    | '[' :: rest => (Value.list <$> elements (Value.reader depth)) rest
    | '{' :: rest =>
      (Value.object <$> entries
        (fun key found => .ok do return insertEntry key (← Value.reader depth) found) []) rest
    | other => Value.single other

end Roster.Json
