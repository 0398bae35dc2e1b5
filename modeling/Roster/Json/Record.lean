import Roster.Json.Reader
import Roster.Json.Skip

/-!
# Reading records from JSON

A record is read from an object with its fields in any order, or from a list with its fields in their
order. While it is read its fields are collected in a draft; a `Record` says how.

* `Record.reader` reads both forms. In an object, unknown fields are passed over, a field given twice
  is refused at its second key, and `finish` judges what is missing. In a list, a missing field gets
  its `fallback` or is refused.
-/

namespace Roster.Json

open Roster.Text

/-- A field of a record with drafts of type `σ`. -/
structure Field (σ : Type) where
  name : String
  /-- Whether the draft has the field. -/
  filled : σ → Bool
  /-- Reads the field into the draft. -/
  read : σ → Reader σ
  /-- The draft with the field's default, if it has one. -/
  fallback : Option (σ → σ)

/-- A field that is read by a reader of its own and set in the draft. -/
def Field.of {σ β : Type} (name : String) (read : Reader β) (get : σ → Option β)
    (set : σ → β → σ) (default : Option β) : Field σ where
  name := name
  filled draft := (get draft).isSome
  read draft := read.map (set draft)
  fallback := default.map fun b draft => set draft b

/-- How records of type `α` are read. -/
structure Record (σ α : Type) where
  /-- What the record is called in messages. -/
  title : String
  fields : List (Field σ)
  /-- The draft without any field. -/
  blank : σ
  /-- The record that a draft makes, or what it lacks. -/
  finish : σ → Except Error α

namespace Record

variable {σ α : Type}

/-- The name of the record's list form in messages. -/
def listTitle (r : Record σ α) : String :=
  let n := r.fields.length
  r.title ++ " with " ++ String.ofList (decimal n) ++ (if n = 1 then " element" else " elements")

/-- How the value of a key is read into a draft; a field that is there already is refused. -/
def entry (r : Record σ α) (depth : Nat) (key : String) (draft : σ) :
    Except Error (Scan σ) :=
  match r.fields.find? (·.name == key) with
  | none => .ok do skip; return draft
  | some field =>
    if field.filled draft then .error (.duplicateField field.name)
    else .ok (field.read draft depth)

/-- The fields of a list form from the `index`-th on, without the closing bracket. -/
def positional (title : String) (depth : Nat) : List (Field σ) → Nat → σ → Scan σ
  | [], _, draft => return draft
  | field :: fields, index, draft => do
    if ← nextElement (index = 0) then
      let draft ← field.read draft depth
      positional title depth fields (index + 1) draft
    else
      match field.fallback with
      | some set => positional title depth fields (index + 1) (set draft)
      | none => throw (.wrongLength index title)

/-- Reads the list form after its opening bracket. -/
def ofList (r : Record σ α) : Reader α := fun depth => do
  let draft ← positional r.listTitle depth r.fields 0 r.blank
  let a ← r.finish draft
  closeList
  return a

/-- Reads the object form after its opening brace. -/
def ofObject (r : Record σ α) : Reader α := fun depth => do
  let draft ← entries (r.entry depth) r.blank
  r.finish draft

/-- Reads a record in either form. -/
def reader (r : Record σ α) : Reader α := fun depth cs =>
  match skipBlanks cs with
  | '[' :: rest => nested r.ofList depth rest
  | '{' :: rest => nested r.ofObject depth rest
  | other => .error (mismatch r.title other)

end Record

/-- A field that has to be there. -/
def required {β : Type} (name : String) : Option β → Except Error β
  | some b => .ok b
  | none => .error (.missingField name)

end Roster.Json
