import Roster.Email
import Roster.Json.Record
import Roster.Time.Timestamp
import Roster.UserId

/-!
# Users

A record of the directory. A deleted user stays as a record with the moment of its deletion.

* `rename`, `changeEmail` and `markDeleted` change a user at a given moment.
* `User.json` and `User.reader` write and read the JSON form.
-/

namespace Roster

open Roster.Json Roster.Time

/-- A moment as JSON text. -/
def Time.Timestamp.json (t : Timestamp) : List Char := Print.text (String.ofList t.text)

/-- Reads a moment from JSON. -/
def Time.Timestamp.reader : Reader Timestamp :=
  (textAs "an RFC 3339 formatted date and time string").check fun s =>
    match Timestamp.ofText s.toList with
    | .ok t => .ok t
    | .error e => .error (.refused e.message)

/-- A user of the directory. -/
structure User where
  id : UserId
  name : String
  email : Email
  createdAt : Timestamp
  updatedAt : Timestamp
  deletedAt : Option Timestamp
  deriving DecidableEq, Repr

namespace User

/-- A user who is created at a moment. -/
def create (id : UserId) (name : String) (email : Email) (now : Timestamp) : User :=
  ⟨id, name, email, now, now, none⟩

/-- The user with another name. -/
def rename (u : User) (name : String) (now : Timestamp) : User :=
  { u with name := name, updatedAt := now }

/-- The user with another address. -/
def changeEmail (u : User) (email : Email) (now : Timestamp) : User :=
  { u with email := email, updatedAt := now }

/-- The user as deleted. -/
def markDeleted (u : User) (now : Timestamp) : User :=
  { u with deletedAt := some now, updatedAt := now }

/-- Whether the user has been deleted. -/
def isDeleted (u : User) : Bool := u.deletedAt.isSome

/-- Whether the user is there. -/
def isLive (u : User) : Bool := u.deletedAt.isNone

/-! ### JSON -/

/-- The user as JSON text. -/
def json (u : User) : List Char :=
  Print.object [("id", u.id.json), ("name", Print.text u.name), ("email", u.email.json),
    ("created_at", u.createdAt.json), ("updated_at", u.updatedAt.json),
    ("deleted_at", Print.optional Timestamp.json u.deletedAt)]

/-- The fields of a user as far as they have been read. -/
structure Draft where
  id : Option UserId := none
  name : Option String := none
  email : Option Email := none
  createdAt : Option Timestamp := none
  updatedAt : Option Timestamp := none
  deletedAt : Option (Option Timestamp) := none

/-- The user that a draft makes; a moment of deletion that is not given counts as none. -/
def Draft.finish (d : Draft) : Except Error User := do
  return {
    id := ← required "id" d.id
    name := ← required "name" d.name
    email := ← required "email" d.email
    createdAt := ← required "created_at" d.createdAt
    updatedAt := ← required "updated_at" d.updatedAt
    deletedAt := d.deletedAt.getD none }

/-- How a user is read. -/
def record : Record Draft User where
  title := "struct User"
  fields := [
    .of "id" UserId.reader Draft.id ({ · with id := some · }) none,
    .of "name" text Draft.name ({ · with name := some · }) none,
    .of "email" Email.reader Draft.email ({ · with email := some · }) none,
    .of "created_at" Timestamp.reader Draft.createdAt ({ · with createdAt := some · }) none,
    .of "updated_at" Timestamp.reader Draft.updatedAt ({ · with updatedAt := some · }) none,
    .of "deleted_at" (optional Timestamp.reader) Draft.deletedAt
      ({ · with deletedAt := some · }) none]
  blank := {}
  finish := Draft.finish

/-- Reads a user from JSON. -/
def reader : Reader User := record.reader

end User

end Roster
