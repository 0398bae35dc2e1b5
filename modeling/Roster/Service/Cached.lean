import Roster.Cache.Generation
import Roster.Cache.Key
import Roster.Cache.Layered
import Roster.Cache.Payload
import Roster.Service.Operation

/-!
# The service with a cache

A service that asks a cache before it asks the service behind it. Users are cached under their ids and
pages under their generation; every change begins a new generation and removes what was cached of the
user that it changed. Failures are never cached.

* `cachedOperate` gives each operation as a program of calls on the service behind, the generation
  and the tiers of the cache.
* `cached` is the service; transactions go past the cache.
-/

namespace Roster.Service

open Roster.Cache

/-! ### Operations -/

/-- A step of an operation. -/
inductive CachedAct where
  | base (op : Operation)
  | generation
  | bump
  | tier (c : TierCall)

/-- What a step answers. -/
abbrev CachedAct.Reply : CachedAct → Type
  | .base op => op.Reply
  | .generation => Nat
  | .bump => Unit
  | .tier c => c.Reply

/-- A program of such steps. -/
abbrev CachedProgram := Program CachedAct CachedAct.Reply

/-- An operation on the cache as part of such a program. -/
def onTiers {α : Type} (p : TierProgram α) : CachedProgram α :=
  p.expand fun c => Program.take (CachedAct.tier c)

/-- Asks the service behind. -/
def askBase (op : Operation) : CachedProgram op.Reply := Program.take (CachedAct.base op)

/-- Begins a new generation. -/
def newGeneration : CachedProgram Unit := Program.take CachedAct.bump

/-- The user that is cached under an id. -/
def cachedUser (remote : Bool) (id : UserId) : CachedProgram (Option User) := do
  match ← onTiers (lookUp remote (userKey id)) with
  | none => return none
  | some bytes => return decodeUser? bytes

/-- Caches a user. -/
def storeUser (remote : Bool) (u : User) : CachedProgram Unit :=
  onTiers (store remote (userKey u.id) (encodeUser u))

/-- Removes what is cached under an id. -/
def evictUser (remote : Bool) (id : UserId) : CachedProgram Unit :=
  onTiers (remove remote (userKey id))

/-- Creates a user. -/
def cachedCreate (remote : Bool) (r : CreateRequest) : CachedProgram (Except Failure User) := do
  match ← askBase (.create r) with
  | .error e => return .error e
  | .ok u =>
    newGeneration
    storeUser remote u
    return .ok u

/-- Gives a user. -/
def cachedGet (remote : Bool) (id : UserId) : CachedProgram (Except Failure User) := do
  match ← cachedUser remote id with
  | some u => return .ok u
  | none =>
    match ← askBase (.get id) with
    | .error e => return .error e
    | .ok u =>
      storeUser remote u
      return .ok u

/-- Changes a user. -/
def cachedUpdate (remote : Bool) (id : UserId) (r : UpdateRequest) :
    CachedProgram (Except Failure User) := do
  match ← askBase (.update id r) with
  | .error e => return .error e
  | .ok u =>
    evictUser remote id
    newGeneration
    storeUser remote u
    return .ok u

/-- Deletes a user. -/
def cachedDelete (remote : Bool) (id : UserId) : CachedProgram (Except Failure Unit) := do
  match ← askBase (.delete id) with
  | .error e => return .error e
  | .ok () =>
    evictUser remote id
    newGeneration
    return .ok ()

/-- The page that is cached under a key. -/
def cachedPage (remote : Bool) (key : String) (r : PageRequest) :
    CachedProgram (Option (Page User)) := do
  match ← onTiers (lookUp remote key) with
  | none => return none
  | some bytes => return (decodeBundle? bytes).map (·.page r)

/-- Gives a page. Its key is made before the service behind is asked, so that a page that was
overtaken by a change is not cached for the generation after the change. -/
def cachedList (remote : Bool) (r : PageRequest) : CachedProgram (Except Failure (Page User)) := do
  let generation ← Program.take CachedAct.generation
  let key := pageKey generation r
  match ← cachedPage remote key r with
  | some p => return .ok p
  | none =>
    match ← askBase (.list r) with
    | .error e => return .error e
    | .ok p =>
      onTiers (store remote key (encodeBundle (.ofPage p)))
      return .ok p

/-- An operation as a program. -/
def cachedOperate (remote : Bool) : (op : Operation) → CachedProgram op.Reply
  | .create r => cachedCreate remote r
  | .get id => cachedGet remote id
  | .update id r => cachedUpdate remote id r
  | .delete id => cachedDelete remote id
  | .list r => cachedList remote r

/-! ### The service -/

/-- The state of a service with a cache. -/
structure CachedState (σ ρ : Type) where
  behind : σ
  generation : Generation
  tiers : Tiers ρ

variable {σ ρ : Type}

/-- What a step does. -/
def cachedHandle (behind : UserService σ) (cache : Layered ρ) :
    Program.Handler CachedAct CachedAct.Reply (CachedState σ ρ)
  | .base op, s => ((behind.run op s.behind).1, { s with behind := (behind.run op s.behind).2 })
  | .generation, s => (s.generation.current, s)
  | .bump, s => ((), { s with generation := s.generation.bump })
  | .tier c, s => ((cache.handle c s.tiers).1, { s with tiers := (cache.handle c s.tiers).2 })

/-- A service with a cache in front of another service. -/
def cached (behind : UserService σ) (cache : Layered ρ) : UserService (CachedState σ ρ) where
  run op := (cachedOperate cache.hasRemote op).run (cachedHandle behind cache)
  transact body s :=
    let (result, b) := behind.transact body s.behind
    (result, { s with behind := b })

end Roster.Service
