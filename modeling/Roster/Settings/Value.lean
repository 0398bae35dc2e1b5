import Roster.Keyed
import Roster.Text.Lowercase
import Roster.Toml.Document

/-!
# Raw settings

What the sources of settings say before it is given its meaning: values of any kind, in tables, with
the source that each one comes from. Tables of several sources are laid on top of one another.

* `setEntry` lays a value on what a table has under a key: tables are merged, and everything else takes
  the place of what was there. The case of keys means nothing.
-/

namespace Roster

open Roster.Number Roster.Text

/-- A single value. -/
inductive Scalar where
  | truth (b : Bool)
  | integer (i : Int)
  | float (x : Binary64)
  | text (s : String)
  deriving DecidableEq, Repr

/-- A raw setting and the source it comes from, if it comes from a single one. -/
inductive RawValue where
  | null
  | scalar (s : Scalar) (source : Option String)
  | list (items : List RawValue) (source : Option String)
  | table (entries : List (String × RawValue)) (source : Option String)

namespace RawValue

/-- Raw settings under keys. -/
abbrev Table := Keyed String RawValue

mutual

/-- A value of a file as a raw setting. -/
def ofToml (source : String) : Toml.Value → RawValue
  | .text s => .scalar (.text s) source
  | .integer i => .scalar (.integer i) source
  | .float x => .scalar (.float x) source
  | .truth b => .scalar (.truth b) source
  | .moment s => .scalar (.text s) source
  | .list items => .list (ofItems source items) source
  | .table entries => .table (ofEntries source entries) source

/-- `ofToml` on the elements of a list. -/
def ofItems (source : String) : List Toml.Value → List RawValue
  | [] => []
  | v :: rest => ofToml source v :: ofItems source rest

/-- `ofToml` on the entries of a table. -/
def ofEntries (source : String) : List (String × Toml.Value) → List (String × RawValue)
  | [] => []
  | (key, v) :: rest => (key, ofToml source v) :: ofEntries source rest

end

/-- The entries of a table, and none of any other value. -/
def entries : RawValue → Table
  | .table es _ => es
  | _ => []

mutual

/-- Lays a value on what a table has under a key. A table without entries replaces nothing. -/
def setEntry (t : Table) (key : String) : RawValue → Table
  | .table [] _ => if Keyed.has t (lowered key) then t else Keyed.put t (lowered key) (.table [] none)
  | .table (e :: es) _ =>
    let under := (Keyed.get? t (lowered key)).elim [] entries
    Keyed.put t (lowered key) (.table (setEntries (setEntry under e.1 e.2) es) none)
  | v => Keyed.put t (lowered key) v

/-- Lays entries on a table, one after another. -/
def setEntries (t : Table) : List (String × RawValue) → Table
  | [] => t
  | (key, v) :: rest => setEntries (setEntry t key v) rest

end

end RawValue

end Roster
