import Roster.Proofs.Cache.Exact
import Roster.Proofs.Service.Origins

/-!
# How operations are served

Every operation of the service with a cache goes the same way, whatever service is behind it: it is
answered from the cache, or else by the service behind, and what that gives is noted in the cache.

* `run_eq` says so of the answer and the state, and `consulted_eq` says what the service behind is
  asked: nothing but the operation itself, and not even that if the cache has an answer.
* `Served` is the same for a cache in front of a map, and `served_of_mirrors` says that nothing else
  happens there.
-/

namespace Roster.Service

open Roster.Cache

variable {σ ρ : Type}

/-! ### What an operation does -/

/-- What a map from keys to payloads answers to an operation in a generation. -/
def recollect (g : Nat) (m : String → Option ByteArray) : (op : Operation) → Option op.Result
  | .get id => (m (userKey id)).bind decodeUser?
  | .list r => (m (pageKey g r)).bind fun bytes => (decodeBundle? bytes).map (·.page r)
  | .create _ => none
  | .update .. => none
  | .delete _ => none

/-- What an operation looks up in the cache before the service behind is asked. -/
def lookups (g : Nat) : Operation → List CacheCall
  | .get id => [.get (userKey id)]
  | .list r => [.get (pageKey g r)]
  | _ => []

/-- What is noted in the cache when the service behind has given a result. -/
def notes (g : Nat) : (op : Operation) → op.Result → List CacheCall
  | .create _, u => [.set (userKey u.id) (encodeUser u)]
  | .get _, u => [.set (userKey u.id) (encodeUser u)]
  | .update id _, u => [.delete (userKey id), .set (userKey u.id) (encodeUser u)]
  | .delete id, _ => [.delete (userKey id)]
  | .list r, p => [.set (pageKey g r) (encodeBundle (.ofPage p))]

/-- What the service behind is asked in the steps of an operation, with its answers. -/
def baseSteps (steps : List ((x : CachedAct) × x.Reply)) : List ((op : Operation) × op.Reply) :=
  steps.filterMap fun
    | ⟨.base op, reply⟩ => some ⟨op, reply⟩
    | _ => none

/-- What the service behind is asked for an operation, with its answers. -/
def consulted (behind : UserService σ) (cache : Layered ρ) (op : Operation) (s : CachedState σ ρ) :
    List ((op : Operation) × op.Reply) :=
  baseSteps ((cachedOperate cache.hasRemote op).trace (cachedHandle behind cache) s)

section Operations

variable (behind : UserService σ) (cache : Layered ρ)

/-- An operation is answered from the cache if that has an answer. If not, it is answered by the service
behind, and the answer is noted if it is a result. -/
theorem run_eq (op : Operation) (s : CachedState σ ρ) :
    (cached behind cache).run op s =
      match recollect s.generation.current (fun key => (cache.get key s.tiers).1) op with
      | some a => (.ok a, { s with
          tiers := Program.after cache.perform (lookups s.generation.current op) s.tiers })
      | none =>
        match behind.run op s.behind with
        | (.error e, b) => (.error e, ⟨b, s.generation,
            Program.after cache.perform (lookups s.generation.current op) s.tiers⟩)
        | (.ok a, b) => (.ok a, ⟨b,
            if op.changed (.ok a) then s.generation.bump else s.generation,
            Program.after cache.perform
              (lookups s.generation.current op ++ notes s.generation.current op a) s.tiers⟩) := by
  cases op with
  | create r =>
    rw [cached_create]
    rcases behind.run (.create r) s.behind with ⟨e | u, b⟩ <;> rfl
  | get id =>
    rw [cached_get]
    simp only [recollect]
    cases (cache.get (userKey id) s.tiers).1.bind decodeUser? with
    | some u => rfl
    | none => rcases behind.run (.get id) s.behind with ⟨e | u, b⟩ <;> rfl
  | update id r =>
    rw [cached_update]
    rcases behind.run (.update id r) s.behind with ⟨e | u, b⟩ <;> rfl
  | delete id =>
    rw [cached_delete]
    rcases behind.run (.delete id) s.behind with ⟨e | u, b⟩ <;> rfl
  | list r =>
    rw [cached_list]
    simp only [recollect]
    cases (cache.get (pageKey s.generation.current r) s.tiers).1.bind fun bytes =>
        (decodeBundle? bytes).map (·.page r) with
    | some p => rfl
    | none => rcases behind.run (.list r) s.behind with ⟨e | p, b⟩ <;> rfl

theorem baseSteps_append (steps more : List ((x : CachedAct) × x.Reply)) :
    baseSteps (steps ++ more) = baseSteps steps ++ baseSteps more :=
  List.filterMap_append

/-- A program whose steps ask the service behind nothing. -/
def Quiet {β : Type} (p : CachedProgram β) : Prop :=
  ∀ s : CachedState σ ρ, baseSteps (p.trace (cachedHandle behind cache) s) = []

variable {behind cache}

theorem quiet_pure {β : Type} (b : β) : Quiet behind cache (pure b : CachedProgram β) := fun _ => rfl

theorem quiet_newGeneration : Quiet behind cache newGeneration := fun _ => rfl

theorem quiet_onTiers {β : Type} (p : TierProgram β) : Quiet behind cache (onTiers p) := by
  intro s
  induction p generalizing s with
  | done b => rfl
  | act c next ih => exact ih _ _

theorem Quiet.bind {β γ : Type} {p : CachedProgram β} {next : β → CachedProgram γ}
    (h : Quiet behind cache p) (hnext : ∀ b, Quiet behind cache (next b)) :
    Quiet behind cache (p >>= next) := by
  intro s
  rw [Program.trace_monad_bind, baseSteps_append, h, hnext]
  rfl

theorem quiet_cachedUser (id : UserId) : Quiet behind cache (cachedUser cache.hasRemote id) :=
  (quiet_onTiers _).bind fun found => match found with
    | none => quiet_pure _
    | some _ => quiet_pure _

theorem quiet_cachedPage (key : String) (r : PageRequest) :
    Quiet behind cache (cachedPage cache.hasRemote key r) :=
  (quiet_onTiers _).bind fun found => match found with
    | none => quiet_pure _
    | some _ => quiet_pure _

/-- A program that begins with asking the service behind, and asks it nothing else. -/
theorem baseSteps_askBase {β : Type} {op : Operation} {next : op.Reply → CachedProgram β}
    (h : ∀ reply, Quiet behind cache (next reply)) (s : CachedState σ ρ) :
    baseSteps ((askBase op >>= next).trace (cachedHandle behind cache) s) =
      [⟨op, (behind.run op s.behind).1⟩] := by
  rw [Program.trace_monad_bind, baseSteps_append, h]
  rfl

variable (behind cache)

/-- The service behind is asked for the operation itself, unless the cache has an answer. -/
theorem consulted_eq (op : Operation) (s : CachedState σ ρ) :
    consulted behind cache op s =
      match recollect s.generation.current (fun key => (cache.get key s.tiers).1) op with
      | some _ => []
      | none => [⟨op, (behind.run op s.behind).1⟩] := by
  cases op with
  | create r =>
    refine baseSteps_askBase (fun reply => ?_) s
    cases reply with
    | error e => exact quiet_pure _
    | ok u => exact quiet_newGeneration.bind fun _ => (quiet_onTiers _).bind fun _ => quiet_pure _
  | get id =>
    simp only [consulted, cachedOperate, cachedGet, recollect]
    rw [Program.trace_monad_bind, baseSteps_append, quiet_cachedUser, run_cachedUser]
    cases (cache.get (userKey id) s.tiers).1.bind decodeUser? with
    | some u => rfl
    | none =>
      refine baseSteps_askBase (fun reply => ?_) _
      cases reply with
      | error e => exact quiet_pure _
      | ok u => exact (quiet_onTiers _).bind fun _ => quiet_pure _
  | update id r =>
    refine baseSteps_askBase (fun reply => ?_) s
    cases reply with
    | error e => exact quiet_pure _
    | ok u =>
      exact (quiet_onTiers _).bind fun _ => quiet_newGeneration.bind fun _ =>
        (quiet_onTiers _).bind fun _ => quiet_pure _
  | delete id =>
    refine baseSteps_askBase (fun reply => ?_) s
    cases reply with
    | error e => exact quiet_pure _
    | ok _ => exact (quiet_onTiers _).bind fun _ => quiet_newGeneration.bind fun _ => quiet_pure _
  | list r =>
    have hgeneration : (Program.take CachedAct.generation : CachedProgram Nat).run
        (cachedHandle behind cache) s = (s.generation.current, s) := rfl
    simp only [consulted, cachedOperate, cachedList, recollect]
    rw [Program.trace_monad_bind, baseSteps_append, hgeneration]
    dsimp only
    rw [Program.trace_monad_bind, baseSteps_append, quiet_cachedPage, run_cachedPage]
    cases (cache.get (pageKey s.generation.current r) s.tiers).1.bind fun bytes =>
        (decodeBundle? bytes).map (·.page r) with
    | some p => rfl
    | none =>
      refine baseSteps_askBase (fun reply => ?_) _
      cases reply with
      | error e => exact quiet_pure _
      | ok p => exact (quiet_onTiers _).bind fun _ => quiet_pure _

end Operations

/-! ### In front of a map -/

/-- What the remote tier of a service with a cache holds. -/
abbrev CachedState.shown (view : ρ → String → Option ByteArray) (s : CachedState σ ρ) :
    String → Option ByteArray := view s.tiers.far

/-- How an operation is served if the cache is a map: with what the map has, or by the service behind,
which then fails or gives a result that is noted. -/
inductive Served (behind : UserService σ) (cache : Layered ρ)
    (view : ρ → String → Option ByteArray) (op : Operation) (s : CachedState σ ρ) : Prop
  | recalled (a : op.Result) (hit : recollect s.generation.current (s.shown view) op = some a)
      (answer : ((cached behind cache).run op s).1 = .ok a) (asked : consulted behind cache op s = [])
      (same : ((cached behind cache).run op s).2.shown view = s.shown view)
  | failed (e : Failure) (answer : ((cached behind cache).run op s).1 = .error e)
      (miss : recollect s.generation.current (s.shown view) op = none)
      (asked : consulted behind cache op s = [⟨op, .error e⟩])
      (same : ((cached behind cache).run op s).2.shown view = s.shown view)
  | given (a : op.Result) (own : (behind.run op s.behind).1 = .ok a)
      (miss : recollect s.generation.current (s.shown view) op = none)
      (answer : ((cached behind cache).run op s).1 = .ok a)
      (asked : consulted behind cache op s = [⟨op, .ok a⟩])
      (noted : ((cached behind cache).run op s).2.shown view =
        Program.after CacheCall.onMap (notes s.generation.current op a) (s.shown view))

section Map

variable {behind : UserService σ} {cache : Layered ρ} {may : ρ → Prop}
  {view : ρ → String → Option ByteArray} (h : cache.Faithful may view)
  (hremote : cache.hasRemote = true) {s : CachedState σ ρ}

include h hremote

/-- The tiers go on to mirror what the remote tier holds, and the operation is served from there. -/
theorem served_of_mirrors (hm : Layered.Mirrors may view (s.shown view) s.tiers) (op : Operation) :
    Layered.Mirrors may view (((cached behind cache).run op s).2.shown view)
        ((cached behind cache).run op s).2.tiers ∧
      Served behind cache view op s := by
  have hrun := run_eq behind cache op s
  have hasked := consulted_eq behind cache op s
  have hget : (fun key => (cache.get key s.tiers).1) = s.shown view :=
    funext fun key => (hm.shows key).get_fst h hremote hm.may_far
  rw [hget] at hrun hasked
  have hlooked : Layered.Mirrors may view (s.shown view)
      (Program.after cache.perform (lookups s.generation.current op) s.tiers) := by
    have hafter := hm.after h hremote (lookups s.generation.current op)
    have hsame : Program.after CacheCall.onMap (lookups s.generation.current op) (s.shown view) =
        s.shown view := by cases op <;> rfl
    rwa [hsame] at hafter
  cases hfound : recollect s.generation.current (s.shown view) op with
  | some a =>
    rw [hfound] at hrun hasked
    dsimp only at hrun hasked
    have hsame : ((cached behind cache).run op s).2.shown view = s.shown view := by
      rw [hrun]
      exact hlooked.view_eq
    refine ⟨?_, .recalled a hfound (by rw [hrun]) hasked hsame⟩
    rw [hsame, hrun]
    exact hlooked
  | none =>
    rw [hfound] at hrun hasked
    dsimp only at hrun hasked
    rcases hown : behind.run op s.behind with ⟨e | a, b⟩
    · rw [hown] at hrun hasked
      have hsame : ((cached behind cache).run op s).2.shown view = s.shown view := by
        rw [hrun]
        exact hlooked.view_eq
      refine ⟨?_, .failed e (by rw [hrun]) hfound hasked hsame⟩
      rw [hsame, hrun]
      exact hlooked
    · rw [hown] at hrun hasked
      dsimp only at hrun
      have hafter := hlooked.after h hremote (notes s.generation.current op a)
      rw [← Program.after_append] at hafter
      have hnoted : ((cached behind cache).run op s).2.shown view =
          Program.after CacheCall.onMap (notes s.generation.current op a) (s.shown view) := by
        rw [hrun]
        exact hafter.view_eq
      refine ⟨?_, .given a (by rw [hown]) hfound (by rw [hrun]) hasked hnoted⟩
      rw [hnoted, hrun]
      exact hafter

end Map

end Roster.Service
