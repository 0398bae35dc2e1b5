import Roster.FieldErrors
import Roster.Json.Record

/-!
# Requests

What is asked of the directory when a user is created or changed. Texts come as they were typed; only
their length is limited here.

* `CreateRequest.check` and `UpdateRequest.check` hold the limits.
-/

namespace Roster

open Roster.Json

/-- How many characters a name may have. -/
def nameLimit : Nat := 128

/-- How many characters an email address may have. -/
def emailLimit : Nat := 254

/-- Adds the fault of a name that is too long. -/
def checkName (name : String) (faults : Faults) : Faults :=
  match lengthFault? nameLimit "Name cannot exceed 128 characters" name with
  | some f => faults.add "name" f
  | none => faults

/-- Adds the fault of an address that is too long. -/
def checkEmail (email : String) (faults : Faults) : Faults :=
  match lengthFault? emailLimit "Email cannot exceed 254 characters" email with
  | some f => faults.add "email" f
  | none => faults

/-- Nothing, or the failure for faults. -/
def Faults.verdict (faults : Faults) : Except Failure Unit :=
  if faults.isEmpty then .ok () else .error faults.failure

/-! ### Creating a user -/

/-- A request to create a user. -/
structure CreateRequest where
  name : String
  email : String
  deriving DecidableEq, Repr

namespace CreateRequest

/-- Checks the limits on the fields. -/
def check (r : CreateRequest) : Except Failure Unit :=
  (checkEmail r.email (checkName r.name [])).verdict

/-- The request as JSON text. -/
def json (r : CreateRequest) : List Char :=
  Print.object [("name", Print.text r.name), ("email", Print.text r.email)]

/-- The fields of a request as far as they have been read. -/
structure Draft where
  name : Option String := none
  email : Option String := none

/-- How a request is read. -/
def record : Record Draft CreateRequest where
  title := "struct CreateUserRequest"
  fields := [
    .of "name" text Draft.name ({ · with name := some · }) none,
    .of "email" text Draft.email ({ · with email := some · }) none]
  blank := {}
  finish d := do
    return { name := ← required "name" d.name, email := ← required "email" d.email }

/-- Reads a request from JSON. -/
def reader : Reader CreateRequest := record.reader

end CreateRequest

/-! ### Changing a user -/

/-- A request to change a user; what is not given stays. -/
structure UpdateRequest where
  name : Option String
  email : Option String
  deriving DecidableEq, Repr

namespace UpdateRequest

/-- Checks the limits on the fields that are given. -/
def check (r : UpdateRequest) : Except Failure Unit :=
  let faults : Faults := match r.name with
    | some name => checkName name []
    | none => []
  let faults := match r.email with
    | some email => checkEmail email faults
    | none => faults
  faults.verdict

/-- The request as JSON text. -/
def json (r : UpdateRequest) : List Char :=
  Print.object [("name", Print.optional Print.text r.name),
    ("email", Print.optional Print.text r.email)]

/-- The fields of a request as far as they have been read. -/
structure Draft where
  name : Option (Option String) := none
  email : Option (Option String) := none

/-- How a request is read; a field that is not given counts as null. -/
def record : Record Draft UpdateRequest where
  title := "struct UpdateUserRequest"
  fields := [
    .of "name" (optional text) Draft.name ({ · with name := some · }) none,
    .of "email" (optional text) Draft.email ({ · with email := some · }) none]
  blank := {}
  finish d := .ok { name := d.name.getD none, email := d.email.getD none }

/-- Reads a request from JSON. -/
def reader : Reader UpdateRequest := record.reader

end UpdateRequest

end Roster
