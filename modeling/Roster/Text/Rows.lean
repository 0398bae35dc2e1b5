import Roster.Text.Digits
import Roster.Text.Pieces
import Roster.Text.Spans

/-!
# Tables in rows

Large tables of code points are kept as rows of text. A row holds records with blanks between them, a
record holds hexadecimal numbers with commas between them, and the first number of each record is the
distance from the last code point of the record before it.

* `records` reads rows, `recordSpans` makes spans of records that hold a distance and a length.
-/

namespace Roster.Text

/-- The number that hexadecimal digits denote; other characters count nothing. -/
def hexValueOf (cs : List Char) : Nat := cs.foldl (fun n c => n * 16 + (hexValue? c).getD 0) 0

/-- A hexadecimal number with an optional minus sign. -/
def hexInt : List Char → Int
  | '-' :: rest => -(hexValueOf rest : Int)
  | rest => hexValueOf rest

/-- The records of all rows. -/
def records (rows : List String) : List (List Int) :=
  rows.flatMap fun row => (pieces ' ' row.toList).map fun r => (pieces ',' r).map hexInt

/-- Spans from records of a distance and a length beyond one; `last` is the code point before. -/
def recordSpansFrom : Nat → List (List Int) → Spans
  | _, [] => []
  | last, r :: rest =>
    let first := last + (r.headD 0).toNat
    let final := first + (r.getD 1 0).toNat
    (first, final) :: recordSpansFrom final rest

/-- The spans that rows list. -/
def recordSpans (rows : List String) : Spans := recordSpansFrom 0 (records rows)

/-- Records with the code point that each one stands for in place of its distance. -/
def placedFrom : Nat → List (List Int) → List (Nat × List Int)
  | _, [] => []
  | last, r :: rest =>
    let n := last + (r.headD 0).toNat
    (n, r.tail) :: placedFrom n rest

/-- The records of rows that list single code points. -/
def placedRecords (rows : List String) : List (Nat × List Int) := placedFrom 0 (records rows)

end Roster.Text
