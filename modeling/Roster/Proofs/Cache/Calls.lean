import Roster.Cache.Layered

/-!
# Calls on a cache

The operations of a cache and the maintenance of its local tier as data, so that the same calls can be
made one after another on a cache, on a local tier alone, and on anything else that answers them.

* `Layered.perform` and `Local.perform` say what a call does to a cache and to a local tier.
* `CacheCall.found`, `CacheCall.missed` and `CacheCall.goesFar` tell calls apart by their answers.
-/

namespace Roster.Cache

variable {ρ : Type}

/-! ### Calls -/

/-- A call on a cache: one of its operations, or maintenance of the local tier. -/
inductive CacheCall where
  | get (key : String)
  | set (key : String) (value : ByteArray)
  | delete (key : String)
  | flush

namespace CacheCall

/-- What a call answers. -/
abbrev Reply : CacheCall → Type
  | .get _ => Option ByteArray
  | _ => Unit

/-- Whether a call is a lookup that was answered with a value. -/
def found : (call : CacheCall) → call.Reply → Bool
  | .get _, some _ => true
  | _, _ => false

/-- Whether a call is a lookup that was not answered with a value. -/
def missed : (call : CacheCall) → call.Reply → Bool
  | .get _, none => true
  | _, _ => false

/-- Whether a call is for the remote tier too: every write, and a lookup that missed. -/
def goesFar : (call : CacheCall) → call.Reply → Bool
  | .get _, some _ => false
  | .get _, none => true
  | .set .., _ => true
  | .delete _, _ => true
  | .flush, _ => false

end CacheCall

/-- What a call does to a local tier alone. -/
def Local.perform : Program.Handler CacheCall CacheCall.Reply Local
  | .get key, c => c.get key
  | .set key value, c => ((), c.set key value value.size)
  | .delete key, c => ((), c.delete key)
  | .flush, c => ((), c.maintain)

/-- What a call does to the tiers of a cache. -/
def Layered.perform (c : Layered ρ) : Program.Handler CacheCall CacheCall.Reply (Tiers ρ)
  | .get key, s => c.get key s
  | .set key value, s => ((), c.set key value s)
  | .delete key, s => ((), c.delete key s)
  | .flush, s => ((), { s with near := s.near.maintain })

end Roster.Cache
