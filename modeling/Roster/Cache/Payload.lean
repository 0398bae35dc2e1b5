import Roster.Page
import Roster.Text.Bytes
import Roster.User

/-!
# Cached payloads

What the cache keeps for a user and for a page of users: their JSON text as bytes. Of a page only the
users and the size of the whole listing are kept; the rest follows from the request.

* `encodeUser` and `decodeUser?`, `encodeBundle` and `decodeBundle?` convert in both directions.
-/

namespace Roster.Cache

open Roster.Json Roster.Number Roster.Text

/-- The value that bytes hold, if they are the JSON text of one. -/
def decode? {α : Type} (read : Reader α) (bytes : ByteArray) : Option α := do
  let text ← String.fromUTF8? bytes
  (read.run text).toOption

/-- The bytes of a user. -/
def encodeUser (u : User) : ByteArray := bytesOf u.json

/-- The user that bytes hold. -/
def decodeUser? (bytes : ByteArray) : Option User := decode? User.reader bytes

/-- The users of a page and the number of all users. -/
structure Bundle where
  users : List User
  total : Nat
  deriving DecidableEq, Repr

namespace Bundle

/-- The bundle as JSON text. -/
def json (b : Bundle) : List Char :=
  Print.object [("u", Print.list (b.users.map User.json)), ("t", Print.natural b.total)]

/-- The fields of a bundle as far as they have been read. -/
structure Draft where
  users : Option (List User) := none
  total : Option Nat := none

/-- How a bundle is read. -/
def record : Record Draft Bundle where
  title := "struct ListBundle"
  fields := [
    .of "u" (Json.list User.reader) Draft.users ({ · with users := some · }) none,
    .of "t" (Json.natural wordMax "u64") Draft.total ({ · with total := some · }) none]
  blank := {}
  finish d := do
    return { users := ← required "u" d.users, total := ← required "t" d.total }

/-- Reads a bundle from JSON. -/
def reader : Reader Bundle := record.reader

/-- What is kept of a page. -/
def ofPage (p : Page User) : Bundle := ⟨p.content, p.info.totalElements⟩

/-- The page that answers a request with the bundle. -/
def page (b : Bundle) (r : PageRequest) : Page User := .of b.users r.page r.size b.total

end Bundle

/-- The bytes of a bundle. -/
def encodeBundle (b : Bundle) : ByteArray := bytesOf b.json

/-- The bundle that bytes hold. -/
def decodeBundle? (bytes : ByteArray) : Option Bundle := decode? Bundle.reader bytes

end Roster.Cache
