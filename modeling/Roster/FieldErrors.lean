import Roster.Error

/-!
# Faults in the fields of a request

Checking a request gives faults for its fields, and for fields that are requests of their own again
such faults. Only a request's own faults are reported.

* `Faults.lines` lists them: fields in order, the faults of one field in the order they were found.
* `Faults.failure` makes them into a failure.
-/

namespace Roster

open Roster.Text

/-- A fault: its code and, if there are some, words for it. -/
structure Fault where
  code : String
  message : Option String
  deriving DecidableEq, Repr

/-- The words for a fault, or its code. -/
def Fault.text (f : Fault) : String := f.message.getD f.code

/-- The faults of a field: its own, those of the fields inside it, or those inside the elements of a
list by their places. -/
inductive FieldFaults where
  | own (faults : List Fault)
  | nested (inside : List (String × FieldFaults))
  | listed (inside : List (Nat × List (String × FieldFaults)))
  deriving Repr

/-- The faults of a request by field, in any order, each field once. -/
abbrev Faults := List (String × FieldFaults)

namespace Faults

/-- Adds a fault to a field after those it has. A field with faults inside it stays as it is. -/
def add (faults : Faults) (field : String) (fault : Fault) : Faults :=
  match faults with
  | [] => [(field, .own [fault])]
  | (f, known) :: rest =>
    if f = field then
      match known with
      | .own faults => (f, .own (faults ++ [fault])) :: rest
      | known => (f, known) :: rest
    else (f, known) :: add rest field fault

/-- Sets the faults inside a field. -/
def addNested (faults : Faults) (field : String) (inside : Faults) : Faults :=
  match faults with
  | [] => [(field, .nested inside)]
  | (f, known) :: rest =>
    if f = field then (f, .nested inside) :: rest else (f, known) :: addNested rest field inside

/-- A field with one of its faults. -/
structure Line where
  field : String
  text : String
  deriving DecidableEq, Repr

/-- The lines for one field. -/
def fieldLines (e : String × FieldFaults) : List Line :=
  match e.2 with
  | .own faults => faults.map fun f => ⟨e.1, f.text⟩
  | .nested _ => []
  | .listed _ => []

/-- Whether a line may stand before another. -/
def Line.le (a b : Line) : Bool := decide (a.field ≤ b.field)

/-- The lines for all fields, ordered by field. -/
def lines (faults : Faults) : List Line := (faults.flatMap fieldLines).mergeSort Line.le

/-- The text of a line. -/
def Line.show (l : Line) : String := l.field ++ ": " ++ l.text

/-- The lines in one text. -/
def summary (faults : Faults) : String := "; ".intercalate (faults.lines.map Line.show)

/-- The failure that faults are. -/
def failure (faults : Faults) : Failure := .validation faults.summary

end Faults

/-! ### Rules -/

/-- The fault of a blank text. -/
def blankFault? (s : String) : Option Fault :=
  if allBlank s then some ⟨"not_blank", none⟩ else none

/-- The fault of a text with more than `limit` characters. -/
def lengthFault? (limit : Nat) (message s : String) : Option Fault :=
  if limit < s.length then some ⟨"length", some message⟩ else none

end Roster
