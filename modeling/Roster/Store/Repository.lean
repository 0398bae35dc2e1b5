import Roster.Store.Call

/-!
# The repository and its units of work

A repository is a table with a version that counts its changes. A unit of work is a copy of the table
on which calls are staged; committing it puts the copy in the place of the table, provided that the
table has not changed since.

* `Repository.run` and `UnitOfWork.run` answer calls.
* `UnitOfWork.commit` and `UnitOfWork.rollback` finish a unit of work; afterwards it answers no calls.
-/

namespace Roster.Store

/-- A table and the number of its changes. -/
structure Repository where
  table : Table
  version : Nat
  deriving Repr

namespace Repository

/-- A repository without users. -/
def empty : Repository := ⟨[], 0⟩

/-- Answers a call. -/
def run (r : Repository) (c : Call) : c.Reply × Repository :=
  match c.onTable r.table with
  | (reply, some t) => (reply, ⟨t, r.version + 1⟩)
  | (reply, none) => (reply, r)

end Repository

/-- Calls staged on a copy of a table. -/
structure UnitOfWork where
  /-- The version of the repository that was copied. -/
  base : Nat
  /-- The copy, until the unit is finished. -/
  staged : Option Table
  deriving Repr

/-- The failure to use a unit of work after its end. -/
def finished : Failure := .conflict "unit of work already finished"

/-- The failure to commit a unit of work when the table has changed. -/
def overtaken : Failure := .conflict "concurrent modification, transaction aborted"

/-- The failure to begin a unit of work where there are none. -/
def noTransactions : Failure := .unsupported "transactions not supported"

namespace UnitOfWork

/-- Begins a unit of work. -/
def begin (r : Repository) : UnitOfWork := ⟨r.version, some r.table⟩

/-- Answers a call on the copy. -/
def run (w : UnitOfWork) (c : Call) : c.Reply × UnitOfWork :=
  match w.staged with
  | none => (.error finished, w)
  | some t =>
    match c.onTable t with
    | (reply, some t') => (reply, { w with staged := some t' })
    | (reply, none) => (reply, w)

/-- Puts the copy in the place of the table. The unit is finished in any case. -/
def commit (w : UnitOfWork) (r : Repository) : Except Failure Unit × UnitOfWork × Repository :=
  match w.staged with
  | none => (.error finished, w, r)
  | some t =>
    if r.version = w.base then (.ok (), { w with staged := none }, ⟨t, r.version + 1⟩)
    else (.error overtaken, { w with staged := none }, r)

/-- Gives the copy up. -/
def rollback (w : UnitOfWork) : UnitOfWork := { w with staged := none }

end UnitOfWork

end Roster.Store
