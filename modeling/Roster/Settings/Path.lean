import Roster.Settings.Value

/-!
# Paths to settings

A key at the top of a source may name a setting inside of sections: names with points between them, and
indices in brackets.

* `SettingPath.ofText?` reads a path, `RawValue.assign` sets the value that a key names.
-/

namespace Roster

open Roster.Text

/-- A step from a value to a part of it. -/
inductive PathStep where
  | name (key : String)
  | index (i : Int)
  deriving DecidableEq, Repr

/-- A path from the top. -/
structure SettingPath where
  first : String
  steps : List PathStep
  deriving DecidableEq, Repr

namespace SettingPath

/-- Whether a character may stand in a name. -/
def inName (c : Char) : Bool :=
  isLatin c || isDigit c || c = '_' || c = '-' || c = ' '

/-- The index between brackets. -/
def indexOf? (cs : List Char) : Option Int :=
  let bare := ((cs.dropWhile (· = ' ')).reverse.dropWhile (· = ' ')).reverse
  if bare.head? = some '+' then none else intOfText? bare

/-- The steps that a text describes. Every step takes up text, so its length is fuel enough. -/
def stepsFrom : Nat → List Char → Option (List PathStep)
  | _, [] => some []
  | 0, _ => none
  | fuel + 1, '.' :: rest =>
    let name := rest.takeWhile inName
    if name.isEmpty then none
    else (stepsFrom fuel (rest.dropWhile inName)).map (.name (String.ofList name) :: ·)
  | fuel + 1, '[' :: rest =>
    match indexOf? (rest.takeWhile (· != ']')), rest.dropWhile (· != ']') with
    | some i, ']' :: rest => (stepsFrom fuel rest).map (.index i :: ·)
    | _, _ => none
  | _, _ => none

/-- The path that a text describes. -/
def ofText? (cs : List Char) : Option SettingPath :=
  let name := cs.takeWhile inName
  if name.isEmpty then none
  else (stepsFrom cs.length (cs.dropWhile inName)).map (⟨String.ofList name, ·⟩)

end SettingPath

namespace RawValue

/-- The position that an index means in a list; negative ones count from its end. -/
def position (length : Nat) (i : Int) : Nat := if 0 ≤ i then i.toNat else length - i.natAbs

/-- The value at a position of a list, and the list with another one there. Lists grow as needed. -/
def setItem (items : List RawValue) (at_ : Nat) (v : RawValue) : List RawValue :=
  (items ++ List.replicate (at_ + 1 - items.length) null).set at_ v

/-- Sets a value some steps below another one. What does not fit a step is replaced. -/
def assignBelow (here : RawValue) : List PathStep → RawValue → RawValue
  | [], v => v
  | [.name key], v =>
    match here with
    | .table es source => .table (setEntry es key v) source
    | _ => .table (setEntry [] key v) none
  | .name key :: steps, v =>
    match here with
    | .table es source =>
      .table (Keyed.put es key (assignBelow ((Keyed.get? es key).getD null) steps v)) source
    | _ => .table (Keyed.put [] key (assignBelow null steps v)) none
  | .index i :: steps, v =>
    match here with
    | .list items source =>
      let at_ := position items.length i
      .list (setItem items at_ (assignBelow (items.getD at_ null) steps v)) source
    | _ =>
      let at_ := position 0 i
      .list (setItem [] at_ (assignBelow null steps v)) none

/-- Sets the value that a key at the top of a source names: a path, or the key as it stands. -/
def assign (t : Table) (key : String) (v : RawValue) : Table :=
  match SettingPath.ofText? key.toList with
  | some ⟨first, []⟩ => setEntry t first v
  | some ⟨first, steps⟩ => Keyed.put t first (assignBelow ((Keyed.get? t first).getD null) steps v)
  | none => setEntry t key v

/-- Lays a source on a table. -/
def assignAll (t : Table) (source : List (String × RawValue)) : Table :=
  source.foldl (fun t e => assign t e.1 e.2) t

end RawValue

end Roster
