import Roster.Service.Operation

/-!
# Watching a service

A service that passes everything on to another one, counts what it passes on, and can be told to fail
instead the next times it is asked.
-/

namespace Roster.Service

/-- How often each operation was asked for, and transactions. -/
structure Counts where
  create : Nat
  get : Nat
  update : Nat
  delete : Nat
  list : Nat
  transact : Nat
  deriving DecidableEq, Repr

/-- The counts after one more operation. -/
def Counts.advance (c : Counts) : Operation → Counts
  | .create _ => { c with create := c.create + 1 }
  | .get _ => { c with get := c.get + 1 }
  | .update .. => { c with update := c.update + 1 }
  | .delete _ => { c with delete := c.delete + 1 }
  | .list _ => { c with list := c.list + 1 }

/-- The state of a service that is watched. -/
structure Watched (σ : Type) where
  behind : σ
  counts : Counts
  /-- What it fails with the next times it is asked. -/
  failures : List Failure

/-- A watched service that has not been asked yet. -/
def Watched.start {σ : Type} (behind : σ) : Watched σ := ⟨behind, ⟨0, 0, 0, 0, 0, 0⟩, []⟩

/-- A service that is watched. -/
def watched {σ : Type} (behind : UserService σ) : UserService (Watched σ) where
  run op s :=
    let s := { s with counts := s.counts.advance op }
    match s.failures with
    | e :: rest => (.error e, { s with failures := rest })
    | [] =>
      let (reply, b) := behind.run op s.behind
      (reply, { s with behind := b })
  transact body s :=
    let s := { s with counts := { s.counts with transact := s.counts.transact + 1 } }
    match s.failures with
    | e :: rest => ((none, .error e), { s with failures := rest })
    | [] =>
      let (result, b) := behind.transact body s.behind
      (result, { s with behind := b })

end Roster.Service
