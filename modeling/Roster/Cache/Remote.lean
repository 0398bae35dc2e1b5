import Roster.Cache.Trouble

/-!
# Remote tiers

A remote tier is a cache that is shared and can fail. All that is known of it is what it answers: a
`Remote` says that for every call and state. Calls that take too long are given up: `Slow` describes
a tier whose answers take time, and `Slow.within` the tier with a limit on that time.
-/

namespace Roster.Cache

open Roster.Time

/-- A remote tier with states of type `ρ`. -/
structure Remote (ρ : Type) where
  get : String → ρ → Except Trouble ByteArray × ρ
  set : String → ByteArray → Duration → ρ → Except Trouble Unit × ρ
  delete : String → ρ → Except Trouble Unit × ρ

/-- A call that takes time. -/
structure Attempt (ρ α : Type) where
  /-- How long it takes, unless it never ends. -/
  delay : Option Duration
  /-- The state once the call has been made. -/
  started : ρ
  /-- The answer. -/
  answer : Except Trouble α
  /-- The state once the call has ended. -/
  ended : ρ

/-- The answer to a call for which there is so much time; one that is given up has no effect. -/
def Attempt.within {ρ α : Type} (limit : Duration) (a : Attempt ρ α) : Except Trouble α × ρ :=
  match a.delay with
  | some d => if d.nanos ≤ limit.nanos then (a.answer, a.ended) else (.error (.timeout limit), a.started)
  | none => (.error (.timeout limit), a.started)

/-- A remote tier whose answers take time. -/
structure Slow (ρ : Type) where
  get : String → ρ → Attempt ρ ByteArray
  set : String → ByteArray → Duration → ρ → Attempt ρ Unit
  delete : String → ρ → Attempt ρ Unit

/-- The tier when there is so much time for each call. -/
def Slow.within {ρ : Type} (limit : Duration) (r : Slow ρ) : Remote ρ where
  get key s := (r.get key s).within limit
  set key value ttl s := (r.set key value ttl s).within limit
  delete key s := (r.delete key s).within limit

end Roster.Cache
