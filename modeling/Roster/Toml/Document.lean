import Roster.Keyed
import Roster.Toml.Lexeme
import Roster.Toml.Scalar

/-!
# TOML documents

A document is a table of values under keys. It is written as lines with keys and values, under headers
that say to which table the lines belong. A table may be defined in one place only, and what a line
says may not contradict the lines before.

* `Node` is a table in the making, which knows how it was defined; `alter` changes the table at a path.
* `document?` reads a document.
-/

namespace Roster.Toml

open Roster.Number

/-- A value. -/
inductive Value where
  | text (s : String)
  | integer (i : Int)
  | float (x : Binary64)
  | truth (b : Bool)
  /-- A date, a time or both, in the usual form. -/
  | moment (s : String)
  | list (items : List Value)
  | table (entries : List (String × Value))

/-- Part of a document in the making. -/
inductive Node where
  | value (v : Value)
  /-- A table. It is implicit if only its path has been named so far, and dotted if that was in the
  key of a line. -/
  | table (implicit dotted : Bool) (entries : List (String × Node))
  /-- Tables under one header that may come several times. -/
  | tables (elements : List (List (String × Node)))

/-- Nodes under keys. -/
abbrev Entries := Keyed String Node

mutual

/-- The value that a node makes. -/
def Node.toValue : Node → Value
  | .value v => v
  | .table _ _ entries => .table (entryValues entries)
  | .tables elements => .list (elementValues elements)

/-- The values that nodes under keys make. -/
def entryValues : List (String × Node) → List (String × Value)
  | [] => []
  | (key, node) :: rest => (key, node.toValue) :: entryValues rest

/-- The values that tables make. -/
def elementValues : List (List (String × Node)) → List Value
  | [] => []
  | entries :: rest => .table (entryValues entries) :: elementValues rest

end

/-! ### Changing the tables -/

/-- Changes the table at a path, and makes the tables on the path that are not there. Of tables under
one header the last one is meant. The path in a key leads through no table that has been defined. -/
def alter (dotted : Bool) (change : Bool → Entries → Option Entries) :
    List String → Bool → Entries → Option Entries
  | [], isDotted, entries => change isDotted entries
  | key :: path, _, entries =>
    match Keyed.get? entries key with
    | none => do
      return Keyed.put entries key (.table true dotted (← alter dotted change path dotted []))
    | some (.value _) => none
    | some (.tables elements) => do
      let last ← alter dotted change path false (elements.getLastD [])
      return Keyed.put entries key (.tables (elements.dropLast ++ [last]))
    | some (.table implicit isDotted inner) => do
      if dotted && !implicit then none
      return Keyed.put entries key (.table implicit isDotted (← alter dotted change path isDotted inner))

/-- Adds a value under a key to a table. -/
def insertLine (path : List String) (key : String) (v : Value) (entries : Entries) :
    Option Entries :=
  alter true
    (fun isDotted entries =>
      if isDotted == path.isEmpty || Keyed.has entries key then none
      else some (Keyed.put entries key (.value v)))
    path false entries

/-- Defines the table of a header. -/
def insertTable (path : List String) (key : String) (entries : Entries) : Option Entries :=
  alter false
    (fun _ entries =>
      match Keyed.get? entries key with
      | none => some (Keyed.put entries key (.table false false []))
      | some (.table true false inner) => some (Keyed.put entries key (.table false false inner))
      | some _ => none)
    path false entries

/-- Adds a table under a header that may come several times. -/
def insertElement (path : List String) (key : String) (entries : Entries) : Option Entries :=
  alter false
    (fun _ entries =>
      match Keyed.get? entries key with
      | none => some (Keyed.put entries key (.tables [[]]))
      | some (.tables elements) => some (Keyed.put entries key (.tables (elements ++ [[]])))
      | some _ => none)
    path false entries

/-! ### Values -/

/-- Whether a character may stand in a word. -/
def inWord (c : Char) : Bool := inBareKey c || c = '+' || c = '.' || c = ':'

/-- The value that a word denotes. -/
def wordValue? (word : List Char) : Option Value :=
  if word = "true".toList then some (.truth true)
  else if word = "false".toList then some (.truth false)
  else match momentText? word, integer? word, float? word with
    | some s, _, _ => some (.moment (String.ofList s))
    | none, some i, _ => some (.integer i)
    | none, none, some x => some (.float x)
    | none, none, none => none

/-- Reads a value that is a word. A time may follow a date after a blank. -/
def wordValue : Scan Value := fun cs =>
  let word := cs.takeWhile inWord
  let rest := cs.dropWhile inWord
  match date? word, rest with
  | some (_, []), ' ' :: c :: more =>
    if Text.isDigit c then
      (wordValue? (word ++ ' ' :: (c :: more).takeWhile inWord)).map
        fun v => (v, (c :: more).dropWhile inWord)
    else (wordValue? word).map fun v => (v, rest)
  | _, _ => (wordValue? word).map fun v => (v, rest)

/-- Reads a value without parts. -/
def single : Scan Value := fun cs =>
  match cs with
  | '"' :: _ => (quotedText cs).map fun r => (.text r.1, r.2)
  | '\'' :: _ => (quotedText cs).map fun r => (.text r.1, r.2)
  | _ => wordValue cs

/-- Reads the elements of a list after its opening bracket or a comma. Every element takes up text, so
the length of the text is fuel enough. -/
def elementsFrom (element : Scan Value) : Nat → Scan (List Value)
  | 0 => fun _ => none
  | fuel + 1 => do
    gap
    fun cs => match cs with
      | ']' :: rest => some ([], rest)
      | _ => (do
        let v ← element
        gap
        fun cs => match cs with
          | ',' :: rest => (elementsFrom element fuel rest).map fun r => (v :: r.1, r.2)
          | ']' :: rest => some ([v], rest)
          | _ => none : Scan (List Value)) cs

/-- Reads a line of an inline table into what has been read of it. -/
def inlineLine (element : Scan Value) (entries : Entries) : Scan Entries := do
  let (path, key) ← keyPath
  letter '='
  spaces
  let v ← element
  spaces
  insertLine path key v entries

/-- Reads the lines of an inline table after its opening brace or a comma. -/
def inlineFrom (element : Scan Value) : Nat → Entries → Scan Entries
  | 0, _ => fun _ => none
  | fuel + 1, entries => do
    let entries ← inlineLine element entries
    fun cs => match cs with
      | ',' :: rest => inlineFrom element fuel entries rest
      | '}' :: rest => some (entries, rest)
      | _ => none

/-- Reads a value with so many further levels of lists and tables. -/
def value : Nat → Scan Value
  | 0 => single
  | levels + 1 => fun cs =>
    match cs with
    | '[' :: rest => (elementsFrom (value levels) (cs.length + 1) rest).map fun r => (.list r.1, r.2)
    | '{' :: rest =>
      let rest := rest.dropWhile isSpace
      match rest with
      | '}' :: rest => some (.table [], rest)
      | _ =>
        (inlineFrom (value levels) (cs.length + 1) [] rest).map fun r =>
          (.table (entryValues r.1), r.2)
    | _ => single cs

/-! ### Lines -/

/-- A document as far as it has been read, and the path of the table to which lines belong. -/
structure Draft where
  root : Entries
  current : List String

/-- Reads a header after its opening bracket. -/
def header (d : Draft) : Scan Draft := fun cs =>
  match cs with
  | '[' :: rest => (do
    let (path, key) ← keyPath
    letter ']'
    letter ']'
    lineEnd
    let root ← insertElement path key d.root
    return ⟨root, path ++ [key]⟩ : Scan Draft) rest
  | _ => (do
    let (path, key) ← keyPath
    letter ']'
    lineEnd
    let root ← insertTable path key d.root
    return ⟨root, path ++ [key]⟩ : Scan Draft) cs

/-- Reads a line with a key and a value. -/
def line (d : Draft) : Scan Draft := do
  let (path, key) ← keyPath
  letter '='
  spaces
  let v ← value deepest
  lineEnd
  let root ← alter false (fun _ entries => insertLine path key v entries) d.current false d.root
  return { d with root := root }

/-- Reads the lines of a document. Every line takes up text, so the length of the text is fuel
enough. -/
def linesFrom : Nat → Draft → List Char → Option Draft
  | 0, _, _ => none
  | fuel + 1, d, cs =>
    match cs.dropWhile isSpace with
    | [] => some d
    | '[' :: rest => do
      let (d, rest) ← header d rest
      linesFrom fuel d rest
    | c :: rest =>
      if c = '#' || c = '\n' || c = '\r' then do
        let (_, rest) ← lineEnd (c :: rest)
        linesFrom fuel d rest
      else do
        let (d, rest) ← line d (c :: rest)
        linesFrom fuel d rest

/-- Reads a document. A mark of byte order at its start is passed over. -/
def document? (cs : List Char) : Option (List (String × Value)) :=
  let cs := if cs.head? = some '\uFEFF' then cs.tail else cs
  (linesFrom (cs.length + 1) ⟨[], []⟩ cs).map fun d => entryValues d.root

end Roster.Toml
