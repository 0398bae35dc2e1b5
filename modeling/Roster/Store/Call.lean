import Roster.Store.Table

/-!
# Calls on a table of users

What can be asked of anything that keeps users: the shared table or a unit of work. Calls are data,
so that the same call can be made on either and a sequence of calls can be replayed.

* `Call.onTable` is what a call does to a table.
-/

namespace Roster.Store

open Roster.Time

/-- A call on something that keeps users. -/
inductive Call where
  | save (u : User)
  | find (id : UserId)
  | update (u : User)
  | delete (id : UserId) (now : Timestamp)
  | list (r : PageRequest)
  deriving DecidableEq, Repr

/-- What a call gives when it succeeds. -/
abbrev Call.Result : Call → Type
  | .save _ => User
  | .find _ => Option User
  | .update _ => User
  | .delete .. => Bool
  | .list _ => Page User

/-- What a call answers. -/
abbrev Call.Reply (c : Call) : Type := Except Failure c.Result

/-- The answer to a call on a table, and the table afterwards if the call changed it. -/
def Call.onTable (t : Table) : (c : Call) → c.Reply × Option Table
  | .save u =>
    match t.insert u with
    | .ok t' => (.ok u, some t')
    | .error e => (.error e, none)
  | .find id => (.ok (t.find? id), none)
  | .update u =>
    match t.update u with
    | .ok t' => (.ok u, some t')
    | .error e => (.error e, none)
  | .delete id now =>
    match t.softDelete? id now with
    | some t' => (.ok true, some t')
    | none => (.ok false, none)
  | .list r => (.ok (t.page r), none)

end Roster.Store
