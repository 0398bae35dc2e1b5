import Roster.Cache.Local
import Roster.Cache.Remote
import Roster.Program

/-!
# The cache of two tiers

A local tier in front of a remote one, if there is a remote one. What the remote tier fails to do is
counted and otherwise ignored, so that the cache itself never fails.

* `lookUp`, `store` and `remove` are the operations, as programs of calls on the tiers.
* `Tiers.handle` says what such a call does; `Layered.get`, `Layered.set` and `Layered.delete` run
  an operation alone.
-/

namespace Roster.Cache

open Roster.Time

/-! ### Programs -/

/-- What is counted. -/
inductive Counter where
  | localHit
  | remoteHit
  | miss
  | remoteError
  deriving DecidableEq, Repr

/-- A call on one of the tiers, or on a counter. -/
inductive TierCall where
  | localGet (key : String)
  | localSet (key : String) (value : ByteArray)
  | localDelete (key : String)
  | remoteGet (key : String)
  | remoteSet (key : String) (value : ByteArray)
  | remoteDelete (key : String)
  | tally (counter : Counter)

/-- What a call answers. -/
abbrev TierCall.Reply : TierCall → Type
  | .localGet _ => Option ByteArray
  | .remoteGet _ => Except Trouble ByteArray
  | .remoteSet .. => Except Trouble Unit
  | .remoteDelete _ => Except Trouble Unit
  | _ => Unit

/-- A program of calls on the tiers. -/
abbrev TierProgram := Program TierCall TierCall.Reply

/-- Counts an event. -/
def tally (counter : Counter) : TierProgram Unit := Program.take (TierCall.tally counter)

/-- Counts a failure of the remote tier. -/
def tallyTrouble : Except Trouble Unit → TierProgram Unit
  | .ok () => return ()
  | .error _ => tally .remoteError

/-- Looks up a key: in the local tier, then in the remote one, from which the value is copied to the
local tier. -/
def lookUp (remote : Bool) (key : String) : TierProgram (Option ByteArray) :=
  .act (.localGet key) fun
    | some value => do
      tally .localHit
      return some value
    | none =>
      if remote then
        .act (.remoteGet key) fun
          | .ok value => do
            tally .remoteHit
            Program.take (TierCall.localSet key value)
            return some value
          | .error .miss => do
            tally .miss
            return none
          | .error _ => do
            tally .remoteError
            tally .miss
            return none
      else do
        tally .miss
        return none

/-- Stores a value under a key in both tiers. -/
def store (remote : Bool) (key : String) (value : ByteArray) : TierProgram Unit :=
  .act (.localSet key value) fun () =>
    if remote then .act (.remoteSet key value) tallyTrouble else return ()

/-- Removes the value under a key from both tiers. -/
def remove (remote : Bool) (key : String) : TierProgram Unit :=
  .act (.localDelete key) fun () =>
    if remote then .act (.remoteDelete key) tallyTrouble else return ()

/-! ### Running alone -/

/-- The counters. -/
structure Stats where
  localHits : Nat
  remoteHits : Nat
  misses : Nat
  remoteErrors : Nat
  deriving DecidableEq, Repr

/-- The counters with one of them advanced. -/
def Stats.advance (s : Stats) : Counter → Stats
  | .localHit => { s with localHits := s.localHits + 1 }
  | .remoteHit => { s with remoteHits := s.remoteHits + 1 }
  | .miss => { s with misses := s.misses + 1 }
  | .remoteError => { s with remoteErrors := s.remoteErrors + 1 }

/-- The states of both tiers and the counters. -/
structure Tiers (ρ : Type) where
  near : Local
  far : ρ
  stats : Stats

/-- What a cache is made of besides its state: the remote tier, if there is one, how long its entries
are kept and how long it may take to answer. -/
structure Layered (ρ : Type) where
  remote : Option (Slow ρ)
  ttl : Duration
  timeout : Duration

namespace Layered

variable {ρ : Type}

/-- Whether there is a remote tier. -/
def hasRemote (c : Layered ρ) : Bool := c.remote.isSome

/-- The tiers of a new cache. -/
def start (near : Local) (far : ρ) : Tiers ρ := ⟨near, far, ⟨0, 0, 0, 0⟩⟩

/-- What a call does to the tiers. Without a remote tier there is nobody to answer its calls. -/
def handle (c : Layered ρ) : Program.Handler TierCall TierCall.Reply (Tiers ρ)
  | .localGet key, s => ((s.near.get key).1, { s with near := (s.near.get key).2 })
  | .localSet key value, s => ((), { s with near := s.near.set key value value.size })
  | .localDelete key, s => ((), { s with near := s.near.delete key })
  | .remoteGet key, s =>
    match c.remote with
    | some r =>
      let (answer, far) := (r.within c.timeout).get key s.far
      (answer, { s with far := far })
    | none => (.error .miss, s)
  | .remoteSet key value, s =>
    match c.remote with
    | some r =>
      let (answer, far) := (r.within c.timeout).set key value c.ttl s.far
      (answer, { s with far := far })
    | none => (.error .miss, s)
  | .remoteDelete key, s =>
    match c.remote with
    | some r =>
      let (answer, far) := (r.within c.timeout).delete key s.far
      (answer, { s with far := far })
    | none => (.error .miss, s)
  | .tally counter, s => ((), { s with stats := s.stats.advance counter })

/-- Looks up a key. -/
def get (c : Layered ρ) (key : String) (s : Tiers ρ) : Option ByteArray × Tiers ρ :=
  (lookUp c.hasRemote key).run c.handle s

/-- Sets the value under a key. -/
def set (c : Layered ρ) (key : String) (value : ByteArray) (s : Tiers ρ) : Tiers ρ :=
  ((store c.hasRemote key value).run c.handle s).2

/-- Removes the value under a key. -/
def delete (c : Layered ρ) (key : String) (s : Tiers ρ) : Tiers ρ :=
  ((remove c.hasRemote key).run c.handle s).2

/-- The cache in words. -/
def describe (c : Layered ρ) (s : Tiers ρ) : List Char :=
  "LayeredCache \x7b local: ".toList ++ s.near.describe ++ ", has_remote: ".toList ++
    (if c.hasRemote then "true".toList else "false".toList) ++ ", ttl: ".toList ++ c.ttl.text ++
    ", remote_timeout: ".toList ++ c.timeout.text ++ ", .. \x7d".toList

end Layered

end Roster.Cache
