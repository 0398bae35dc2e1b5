import Roster.Error
import Roster.Keyed
import Roster.Page
import Roster.User

/-!
# The table of users

Users under their ids. A deleted user stays in the table, but is found no more and its address is
free again; no two live users have the same address.

* `insert`, `update` and `softDelete` are the changes, refused where they would break that.
* `page` gives a page of the live users, the latest first.
-/

namespace Roster.Store

open Roster.Time

/-- Users under their ids. -/
abbrev Table := Keyed UserId User

namespace Table

/-- The users who are not deleted. -/
def live (t : Table) : List User := (t.map (·.2)).filter User.isLive

/-- The live user with an id. -/
def find? (t : Table) (id : UserId) : Option User := (Keyed.get? t id).filter User.isLive

/-- The failure to give one id to two users. -/
def idTaken (id : UserId) : Failure :=
  .conflict ("User id '" ++ String.ofList id.text ++ "' already exists")

/-- The failure to give one address to two live users. -/
def emailTaken (e : Email) : Failure := .conflict ("Email '" ++ e.text ++ "' already exists")

/-- The table with a new user. -/
def insert (t : Table) (u : User) : Except Failure Table :=
  if Keyed.has t u.id then .error (idTaken u.id)
  else if t.live.any (·.email = u.email) then .error (emailTaken u.email)
  else .ok (Keyed.put t u.id u)

/-- The table with a live user replaced by another record of the same id. -/
def update (t : Table) (u : User) : Except Failure Table :=
  if (t.find? u.id).isNone then .error (.noUser u.id)
  else if t.live.any (fun v => v.id ≠ u.id && v.email = u.email) then .error (emailTaken u.email)
  else .ok (Keyed.put t u.id u)

/-- The table with a live user marked as deleted, if there is one with the id. -/
def softDelete? (t : Table) (id : UserId) (now : Timestamp) : Option Table :=
  (t.find? id).map fun u => Keyed.put t id (u.markDeleted now)

/-- Whether a user may stand before another in the listing: the later creation first, of two at the
same moment the greater id. -/
def listedBefore (u v : User) : Bool :=
  v.createdAt.before u.createdAt || (u.createdAt == v.createdAt && v.id.value ≤ u.id.value)

/-- The live users, the latest first. -/
def listing (t : Table) : List User := t.live.mergeSort listedBefore

/-- A page of the listing. -/
def page (t : Table) (r : PageRequest) : Page User :=
  let users := t.listing
  .of ((users.drop r.offset).take r.size) r.page r.size users.length

end Table

end Roster.Store
