import Roster.Service.Cached

/-!
# What the service with a cache does

Each operation in terms of the service behind and of the operations of the cache, for any service and
any cache.

* `run_onTiers` says that a program of calls on the tiers touches nothing else.
* `cached_create`, `cached_get`, `cached_update`, `cached_delete` and `cached_list` are the operations.
-/

namespace Roster.Service

open Roster.Cache

variable {σ ρ : Type} (behind : UserService σ) (cache : Layered ρ)

/-- A program of calls on the tiers runs on the tiers alone. -/
theorem run_onTiers {α : Type} (p : TierProgram α) (s : CachedState σ ρ) :
    (onTiers p).run (cachedHandle behind cache) s =
      ((p.run cache.handle s.tiers).1, { s with tiers := (p.run cache.handle s.tiers).2 }) := by
  simp only [onTiers]
  rw [Program.run_expand]
  induction p generalizing s with
  | done a => rfl
  | act c next ih =>
    rw [Program.run_act, Program.run_act, ih]
    rfl

theorem run_askBase (op : Operation) (s : CachedState σ ρ) :
    (askBase op).run (cachedHandle behind cache) s =
      ((behind.run op s.behind).1, { s with behind := (behind.run op s.behind).2 }) := rfl

theorem run_newGeneration (s : CachedState σ ρ) :
    newGeneration.run (cachedHandle behind cache) s =
      ((), { s with generation := s.generation.bump }) := rfl

theorem run_storeUser (u : User) (s : CachedState σ ρ) :
    (storeUser cache.hasRemote u).run (cachedHandle behind cache) s =
      ((), { s with tiers := cache.set (userKey u.id) (encodeUser u) s.tiers }) :=
  run_onTiers behind cache _ s

theorem run_evictUser (id : UserId) (s : CachedState σ ρ) :
    (evictUser cache.hasRemote id).run (cachedHandle behind cache) s =
      ((), { s with tiers := cache.delete (userKey id) s.tiers }) :=
  run_onTiers behind cache _ s

theorem run_cachedUser (id : UserId) (s : CachedState σ ρ) :
    (cachedUser cache.hasRemote id).run (cachedHandle behind cache) s =
      ((cache.get (userKey id) s.tiers).1.bind decodeUser?,
        { s with tiers := (cache.get (userKey id) s.tiers).2 }) := by
  simp only [cachedUser]
  rw [Program.run_monad_bind, run_onTiers, ← Layered.get]
  cases (cache.get (userKey id) s.tiers).1 <;> rfl

theorem run_cachedPage (key : String) (r : PageRequest) (s : CachedState σ ρ) :
    (cachedPage cache.hasRemote key r).run (cachedHandle behind cache) s =
      ((cache.get key s.tiers).1.bind fun bytes => (decodeBundle? bytes).map (·.page r),
        { s with tiers := (cache.get key s.tiers).2 }) := by
  simp only [cachedPage]
  rw [Program.run_monad_bind, run_onTiers, ← Layered.get]
  cases (cache.get key s.tiers).1 <;> rfl

theorem cached_create (r : CreateRequest) (s : CachedState σ ρ) :
    (cached behind cache).run (.create r) s =
      match behind.run (.create r) s.behind with
      | (.error e, b) => (.error e, { s with behind := b })
      | (.ok u, b) =>
        (.ok u, ⟨b, s.generation.bump, cache.set (userKey u.id) (encodeUser u) s.tiers⟩) := by
  show (cachedCreate cache.hasRemote r).run (cachedHandle behind cache) s = _
  simp only [cachedCreate]
  rw [Program.run_monad_bind, run_askBase]
  rcases behind.run (.create r) s.behind with ⟨e | u, b⟩
  · rfl
  · dsimp only
    rw [Program.run_monad_bind, run_newGeneration, Program.run_monad_bind, run_storeUser]
    rfl

theorem cached_get (id : UserId) (s : CachedState σ ρ) :
    (cached behind cache).run (.get id) s =
      match (cache.get (userKey id) s.tiers).1.bind decodeUser? with
      | some u => (.ok u, { s with tiers := (cache.get (userKey id) s.tiers).2 })
      | none =>
        match behind.run (.get id) s.behind with
        | (.error e, b) => (.error e, ⟨b, s.generation, (cache.get (userKey id) s.tiers).2⟩)
        | (.ok u, b) =>
          (.ok u, ⟨b, s.generation,
            cache.set (userKey u.id) (encodeUser u) (cache.get (userKey id) s.tiers).2⟩) := by
  show (cachedGet cache.hasRemote id).run (cachedHandle behind cache) s = _
  simp only [cachedGet]
  rw [Program.run_monad_bind, run_cachedUser]
  cases (cache.get (userKey id) s.tiers).1.bind decodeUser? with
  | some u => rfl
  | none =>
    dsimp only
    rw [Program.run_monad_bind, run_askBase]
    rcases behind.run (.get id) s.behind with ⟨e | u, b⟩
    · rfl
    · dsimp only
      rw [Program.run_monad_bind, run_storeUser]
      rfl

theorem cached_update (id : UserId) (r : UpdateRequest) (s : CachedState σ ρ) :
    (cached behind cache).run (.update id r) s =
      match behind.run (.update id r) s.behind with
      | (.error e, b) => (.error e, { s with behind := b })
      | (.ok u, b) =>
        (.ok u, ⟨b, s.generation.bump,
          cache.set (userKey u.id) (encodeUser u) (cache.delete (userKey id) s.tiers)⟩) := by
  show (cachedUpdate cache.hasRemote id r).run (cachedHandle behind cache) s = _
  simp only [cachedUpdate]
  rw [Program.run_monad_bind, run_askBase]
  rcases behind.run (.update id r) s.behind with ⟨e | u, b⟩
  · rfl
  · dsimp only
    rw [Program.run_monad_bind, run_evictUser, Program.run_monad_bind, run_newGeneration,
      Program.run_monad_bind, run_storeUser]
    rfl

theorem cached_delete (id : UserId) (s : CachedState σ ρ) :
    (cached behind cache).run (.delete id) s =
      match behind.run (.delete id) s.behind with
      | (.error e, b) => (.error e, { s with behind := b })
      | (.ok (), b) => (.ok (), ⟨b, s.generation.bump, cache.delete (userKey id) s.tiers⟩) := by
  show (cachedDelete cache.hasRemote id).run (cachedHandle behind cache) s = _
  simp only [cachedDelete]
  rw [Program.run_monad_bind, run_askBase]
  rcases behind.run (.delete id) s.behind with ⟨e | u, b⟩
  · rfl
  · dsimp only
    rw [Program.run_monad_bind, run_evictUser, Program.run_monad_bind, run_newGeneration]
    rfl

theorem cached_list (r : PageRequest) (s : CachedState σ ρ) :
    (cached behind cache).run (.list r) s =
      match (cache.get (pageKey s.generation.current r) s.tiers).1.bind fun bytes =>
          (decodeBundle? bytes).map (·.page r) with
      | some p => (.ok p, { s with tiers := (cache.get (pageKey s.generation.current r) s.tiers).2 })
      | none =>
        match behind.run (.list r) s.behind with
        | (.error e, b) =>
          (.error e, ⟨b, s.generation, (cache.get (pageKey s.generation.current r) s.tiers).2⟩)
        | (.ok p, b) =>
          (.ok p, ⟨b, s.generation, cache.set (pageKey s.generation.current r)
            (encodeBundle (.ofPage p)) (cache.get (pageKey s.generation.current r) s.tiers).2⟩) := by
  have hgeneration : (Program.take CachedAct.generation : CachedProgram Nat).run
      (cachedHandle behind cache) s = (s.generation.current, s) := rfl
  show (cachedList cache.hasRemote r).run (cachedHandle behind cache) s = _
  simp only [cachedList]
  rw [Program.run_monad_bind, hgeneration]
  dsimp only
  rw [Program.run_monad_bind, run_cachedPage]
  cases (cache.get (pageKey s.generation.current r) s.tiers).1.bind fun bytes =>
      (decodeBundle? bytes).map (·.page r) with
  | some p => rfl
  | none =>
    dsimp only
    rw [Program.run_monad_bind, run_askBase]
    rcases behind.run (.list r) s.behind with ⟨e | p, b⟩
    · rfl
    · dsimp only
      rw [Program.run_monad_bind, run_onTiers]
      rfl

end Roster.Service
