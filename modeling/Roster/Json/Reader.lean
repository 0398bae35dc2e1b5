import Roster.Json.Lexeme

/-!
# Reading typed values from JSON

A `Reader` takes a value of a known type from the start of a text, so that a text of the wrong shape
is refused at the place where the shape goes wrong. The first argument of a reader bounds how many
lists and objects may still open inside one another.

* `natural`, `truth`, `text` and `optional` read single values; `mismatch` words what stood in their
  place.
* `elements` and `entries` walk through a list and an object; an entry's key is judged before its
  colon is looked at.
* `Reader.run` reads a whole text with at most `deepest` levels of nesting.
-/

namespace Roster.Json

open Roster.Number Roster.Text

/-- Reads a value from the start of a text, with so many further levels of lists and objects. -/
abbrev Reader (α : Type) := Nat → Scan α

/-- How many lists and objects may be open at once. -/
def deepest : Nat := 127

namespace Reader

/-- A reader whose result is passed through a function. -/
def map {α β : Type} (f : α → β) (read : Reader α) : Reader β := fun depth => f <$> read depth

/-- A reader whose result may still be refused. -/
def check {α β : Type} (f : α → Except Error β) (read : Reader α) : Reader β := fun depth => do
  let a ← read depth
  f a

/-- Reads a whole text: a value and nothing but white space after it. -/
def run {α : Type} (read : Reader α) (text : String) : Except Error α := do
  let (a, rest) ← read deepest text.toList
  if (skipBlanks rest).isEmpty then return a else throw .trailingCharacters

end Reader

/-! ### Values of the wrong shape -/

/-- The error for a value that is not of the expected shape, if the value itself can be read. -/
def mismatch (expected : String) (cs : List Char) : Error :=
  let found : Except Error Found := match cs with
    | 'n' :: rest => (word "ull".toList rest).map fun _ => .null
    | 't' :: rest => (word "rue".toList rest).map fun _ => .bool true
    | 'f' :: rest => (word "alse".toList rest).map fun _ => .bool false
    | '"' :: rest => (textBody true rest).map fun r => .text (String.ofList r.1)
    | '[' :: _ => .ok .sequence
    | '{' :: _ => .ok .map
    | [] => .error .eofInValue
    | c :: rest =>
      if startsNumber c then (number (c :: rest)).map fun r => r.1.found
      else .error .expectedValue
  match found with
  | .ok found => .wrongType found expected
  | .error e => e

/-! ### Single values -/

/-- The value that a word stands for, after the word's first letter. -/
def afterWord {α : Type} (letters : String) (a : α) (cs : List Char) : Outcome α :=
  (word letters.toList cs).map fun r => (a, r.2)

/-- A natural number up to a limit, which `expected` describes. -/
def natural (limit : Nat) (expected : String) : Reader Nat := fun _ cs =>
  let cs := skipBlanks cs
  if cs.head?.any startsNumber then
    match number cs with
    | .error e => .error e
    | .ok (.natural n, rest) =>
      if n ≤ limit then .ok (n, rest) else .error (.wrongValue (.natural n) expected)
    | .ok (.negative i, _) => .error (.wrongValue (.negative i) expected)
    | .ok (.float x, _) => .error (.wrongType (.float x) expected)
  else .error (mismatch expected cs)

/-- One of the two truth values. -/
def truth : Reader Bool := fun _ cs =>
  match skipBlanks cs with
  | 't' :: rest => afterWord "rue" true rest
  | 'f' :: rest => afterWord "alse" false rest
  | other => .error (mismatch "a boolean" other)

/-- Reads a text after its opening quote. -/
def textRest : Scan String := fun cs => (textBody true cs).map fun r => (String.ofList r.1, r.2)

/-- A text; `expected` describes what it should hold. -/
def textAs (expected : String) : Reader String := fun _ cs =>
  match skipBlanks cs with
  | '"' :: rest => textRest rest
  | other => .error (mismatch expected other)

/-- Any text. -/
def text : Reader String := textAs "a string"

/-- A value or null. -/
def optional {α : Type} (read : Reader α) : Reader (Option α) := fun depth cs =>
  match skipBlanks cs with
  | 'n' :: rest => afterWord "ull" none rest
  | other => (read depth other).map fun r => (some r.1, r.2)

/-! ### Lists -/

/-- Looks for the next element of a list: whether there is one, or the closing bracket, which stays
in the text. -/
def nextElement (first : Bool) : Scan Bool := fun cs =>
  match skipBlanks cs with
  | [] => .error .eofInList
  | ']' :: rest => .ok (false, ']' :: rest)
  | c :: rest =>
    if first then .ok (true, c :: rest)
    else if c = ',' then
      match skipBlanks rest with
      | [] => .error .eofInValue
      | ']' :: _ => .error .trailingComma
      | more => .ok (true, more)
    else .error .expectedListEnd

/-- Passes the closing bracket of a list. -/
def closeList : Scan Unit := fun cs =>
  match skipBlanks cs with
  | [] => .error .eofInList
  | ']' :: rest => .ok ((), rest)
  | ',' :: rest =>
    if (skipBlanks rest).head? = some ']' then .error .trailingComma
    else .error .trailingCharacters
  | _ => .error .trailingCharacters

/-- The elements of a list after its opening bracket, up to and with its closing one. Every element
takes up text, so the length of the text is fuel enough. -/
def elementsFrom {α : Type} (read : Scan α) : Nat → Bool → Scan (List α)
  | 0, _ => throw .eofInList
  | fuel + 1, first => do
    if ← nextElement first then
      let a ← read
      let as ← elementsFrom read fuel false
      return a :: as
    else
      closeList
      return []

/-- The elements of a list after its opening bracket. -/
def elements {α : Type} (read : Scan α) : Scan (List α) := fun cs =>
  elementsFrom read (cs.length + 1) true cs

/-- Enters a list or an object, if one more level is allowed. -/
def nested {α : Type} (read : Reader α) : Reader α
  | 0 => throw .tooDeep
  | depth + 1 => read depth

/-- A list of values. -/
def list {α : Type} (read : Reader α) : Reader (List α) := fun depth cs =>
  match skipBlanks cs with
  | '[' :: rest => nested (fun depth => elements (read depth)) depth rest
  | other => .error (mismatch "a sequence" other)

/-! ### Objects -/

/-- Looks for the next key of an object: whether there is one, whose opening quote is passed, or the
closing brace, which stays in the text. -/
def nextKey (first : Bool) : Scan Bool := fun cs =>
  match skipBlanks cs with
  | [] => .error .eofInObject
  | '}' :: rest => .ok (false, '}' :: rest)
  | c :: rest =>
    if first then
      if c = '"' then .ok (true, rest) else .error .keyNotText
    else if c = ',' then
      match skipBlanks rest with
      | [] => .error .eofInValue
      | '"' :: more => .ok (true, more)
      | '}' :: _ => .error .trailingComma
      | _ => .error .keyNotText
    else .error .expectedObjectEnd

/-- Passes the colon after a key. -/
def colon : Scan Unit := fun cs =>
  match skipBlanks cs with
  | [] => .error .eofInObject
  | ':' :: rest => .ok ((), rest)
  | _ => .error .expectedColon

/-- Passes the closing brace of an object. -/
def closeObject : Scan Unit := fun cs =>
  match skipBlanks cs with
  | [] => .error .eofInObject
  | '}' :: rest => .ok ((), rest)
  | ',' :: _ => .error .trailingComma
  | _ => .error .trailingCharacters

/-- The entries of an object after its opening brace, up to and with its closing one. The step says
for a key how its value is read into the state, or refuses the key. Every entry takes up text, so the
length of the text is fuel enough. -/
def entriesFrom {σ : Type} (step : String → σ → Except Error (Scan σ)) : Nat → Bool → σ → Scan σ
  | 0, _, _ => throw .eofInObject
  | fuel + 1, first, state => do
    if ← nextKey first then
      let key ← textRest
      let read ← step key state
      colon
      let state ← read
      entriesFrom step fuel false state
    else
      closeObject
      return state

/-- The entries of an object after its opening brace. -/
def entries {σ : Type} (step : String → σ → Except Error (Scan σ)) (start : σ) : Scan σ := fun cs =>
  entriesFrom step (cs.length + 1) true start cs

end Roster.Json
