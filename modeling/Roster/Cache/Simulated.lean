import Roster.Cache.Remote
import Roster.Keyed

/-!
# A simulated remote tier

A remote tier for trials. It behaves as it is told: as a map, as one that is always empty, or as one
that fails in one of several ways. It notes the calls that are made.
-/

namespace Roster.Cache

open Roster.Time

/-- How a simulated tier behaves. -/
inductive Behaviour where
  /-- It keeps what is set. -/
  | map
  /-- It keeps nothing. -/
  | empty
  /-- It cannot be reached. -/
  | down
  /-- Its answers cannot be read. -/
  | garbled
  /-- It never answers. -/
  | silent
  /-- It keeps what is set, but takes time. -/
  | slow (delay : Duration)
  deriving DecidableEq, Repr

/-- A call that was made. -/
inductive RemoteCall where
  | get (key : String)
  | set (key : String) (size : Nat) (ttl : Duration)
  | delete (key : String)
  deriving DecidableEq, Repr

/-- A simulated tier. -/
structure Simulated where
  behaviour : Behaviour
  entries : Keyed String ByteArray
  /-- The calls, the latest first. -/
  calls : List RemoteCall

namespace Simulated

/-- A tier without entries. -/
def ofBehaviour (b : Behaviour) : Simulated := ⟨b, [], []⟩

/-- Notes a call. -/
def note (s : Simulated) (c : RemoteCall) : Simulated := { s with calls := c :: s.calls }

/-- A call in the present behaviour: what a map does, and what a tier that is always empty answers. -/
def attempt {α : Type} (s : Simulated) (asMap : Except Trouble α × Simulated)
    (asEmpty : Except Trouble α) : Attempt Simulated α :=
  match s.behaviour with
  | .map => ⟨some ⟨0⟩, s, asMap.1, asMap.2⟩
  | .slow delay => ⟨some delay, s, asMap.1, asMap.2⟩
  | .empty => ⟨some ⟨0⟩, s, asEmpty, s⟩
  | .down => ⟨some ⟨0⟩, s, .error (.unavailable "scripted"), s⟩
  | .garbled => ⟨some ⟨0⟩, s, .error (.unreadable .expectedValue), s⟩
  | .silent => ⟨none, s, .error .miss, s⟩

/-- The value that a map has under a key. -/
def lookUp (s : Simulated) (key : String) : Except Trouble ByteArray :=
  match Keyed.get? s.entries key with
  | some value => .ok value
  | none => .error .miss

/-- The simulated tier as a tier whose answers take time. -/
def tier : Slow Simulated where
  get key s :=
    let s := s.note (.get key)
    s.attempt (s.lookUp key, s) (.error .miss)
  set key value ttl s :=
    let s := s.note (.set key value.size ttl)
    s.attempt (.ok (), { s with entries := Keyed.put s.entries key value }) (.ok ())
  delete key s :=
    let s := s.note (.delete key)
    s.attempt (.ok (), { s with entries := Keyed.erase s.entries key }) (.ok ())

end Simulated

end Roster.Cache
