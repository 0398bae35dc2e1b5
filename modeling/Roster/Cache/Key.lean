import Roster.Page
import Roster.UserId

/-!
# Cache keys

The names under which single users and pages of users are cached. The name of a page holds the
generation of the listing, so that pages of an earlier generation are never found again.
-/

namespace Roster.Cache

open Roster.Text

/-- The key of a user. -/
def userKey (id : UserId) : String := String.ofList ("user:get:".toList ++ id.text)

/-- The key of a page of users in a generation of the listing. -/
def pageKey (generation : Nat) (r : PageRequest) : String :=
  String.ofList ("user:list:v".toList ++ decimal generation ++ ':' :: decimal r.page ++
    ':' :: decimal r.size)

end Roster.Cache
