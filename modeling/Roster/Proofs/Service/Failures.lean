import Roster.Proofs.Service.Requests
import Roster.Service.Probe

/-!
# Failures leave the cache alone

Any number of services with a cache, each in front of a service of its own, share one cache and one
count of generations. One of them fails only when the service behind it does. By then nothing has been
set in the cache or removed from it, and no generation has begun.

* `tierSteps` are the calls that an operation makes on the tiers.
* `LeftAlone` is what is left of a request that failed; `answer_failed` says that nothing else is.
* `failures_leave_cache` is about runs of requests to services that share a cache.
-/

namespace Roster.Service

open Roster.Cache Roster.Number Roster.Store

variable {α ι σ ρ : Type}

/-! ### Calls on the tiers -/

/-- The calls on the tiers among the steps of an operation, each with its answer. -/
def tierSteps (steps : List ((x : CachedAct) × x.Reply)) : List ((c : TierCall) × c.Reply) :=
  steps.filterMap fun
    | ⟨.tier c, reply⟩ => some ⟨c, reply⟩
    | _ => none

theorem tierSteps_append (steps more : List ((x : CachedAct) × x.Reply)) :
    tierSteps (steps ++ more) = tierSteps steps ++ tierSteps more :=
  List.filterMap_append

section Steps

variable (behind : UserService σ) (cache : Layered ρ)

theorem tierSteps_onTiers {β : Type} (p : TierProgram β) (s : CachedState σ ρ) :
    tierSteps ((onTiers p).trace (cachedHandle behind cache) s) = p.trace cache.handle s.tiers := by
  induction p generalizing s with
  | done b => rfl
  | act c next ih => exact congrArg (_ :: ·) (ih _ _)

theorem tierSteps_cachedUser (id : UserId) (s : CachedState σ ρ) :
    tierSteps ((cachedUser cache.hasRemote id).trace (cachedHandle behind cache) s) =
      (lookUp cache.hasRemote (userKey id)).trace cache.handle s.tiers := by
  simp only [cachedUser]
  rw [Program.trace_monad_bind, tierSteps_append, tierSteps_onTiers]
  cases ((onTiers (lookUp cache.hasRemote (userKey id))).run (cachedHandle behind cache) s).1 <;>
    exact List.append_nil _

theorem tierSteps_cachedPage (key : String) (r : PageRequest) (s : CachedState σ ρ) :
    tierSteps ((cachedPage cache.hasRemote key r).trace (cachedHandle behind cache) s) =
      (lookUp cache.hasRemote key).trace cache.handle s.tiers := by
  simp only [cachedPage]
  rw [Program.trace_monad_bind, tierSteps_append, tierSteps_onTiers]
  cases ((onTiers (lookUp cache.hasRemote key)).run (cachedHandle behind cache) s).1 <;>
    exact List.append_nil _

end Steps

/-! ### Requests that failed -/

/-- The failure that a request was answered with, if it was. -/
def Request.failure? : (q : Request α) → q.Reply → Option Failure
  | .operation _, .error e => some e
  | .operation _, .ok _ => none
  | .transaction _, (_, .error e) => some e
  | .transaction _, (_, .ok ()) => none

/-- The key under which a request looks into the cache before the service behind is asked. -/
def Request.key? (generation : Nat) : Request α → Option String
  | .operation (.get id) => some (userKey id)
  | .operation (.list r) => some (pageKey generation r)
  | _ => none

/-- The steps of a request. A transaction is handed to the service behind as it is. -/
def Request.steps (behind : UserService σ) (cache : Layered ρ) :
    Request α → CachedState σ ρ → List ((x : CachedAct) × x.Reply)
  | .operation op, s => (cachedOperate cache.hasRemote op).trace (cachedHandle behind cache) s
  | .transaction _, _ => []

/-- The service behind gave the answer, and was the only one to do anything but look something up: of
the cache nothing was asked at all, or nothing but the one lookup that the request begins with. -/
structure LeftAlone (behind : UserService σ) (cache : Layered ρ) (q : Request α)
    (s : CachedState σ ρ) : Prop where
  reply : ((cached behind cache).answer q s).1 = (behind.answer q s.behind).1
  handedOn : ((cached behind cache).answer q s).2.behind = (behind.answer q s.behind).2
  generation : ((cached behind cache).answer q s).2.generation = s.generation
  untouched : q.key? s.generation.current = none →
    ((cached behind cache).answer q s).2.tiers = s.tiers ∧ tierSteps (q.steps behind cache s) = []
  lookedUp {key : String} : q.key? s.generation.current = some key →
    ((cached behind cache).answer q s).2.tiers = (cache.get key s.tiers).2 ∧
      tierSteps (q.steps behind cache s) = (lookUp cache.hasRemote key).trace cache.handle s.tiers

section Failed

variable {behind : UserService σ} {cache : Layered ρ} {s : CachedState σ ρ} {e : Failure}

/-- A change fails before it comes to the cache. -/
theorem leftAlone_of_untouched {op : Operation} {reply : op.Reply} {b : σ}
    (hkey : (Request.operation op : Request α).key? s.generation.current = none)
    (hbase : behind.run op s.behind = (reply, b))
    (hrun : (cached behind cache).run op s = (reply, { s with behind := b }))
    (hsteps : tierSteps ((cachedOperate cache.hasRemote op).trace (cachedHandle behind cache) s) = []) :
    LeftAlone behind cache (.operation op : Request α) s where
  reply := by rw [UserService.answer, UserService.answer, hrun, hbase]
  handedOn := by rw [UserService.answer, UserService.answer, hrun, hbase]
  generation := by rw [UserService.answer, hrun]
  untouched _ := ⟨by rw [UserService.answer, hrun], hsteps⟩
  lookedUp hsome := by
    rw [hkey] at hsome
    cases hsome

/-- A lookup fails once the cache had nothing to answer it with. -/
theorem leftAlone_of_lookedUp {op : Operation} {key : String} {reply : op.Reply} {b : σ}
    (hkey : (Request.operation op : Request α).key? s.generation.current = some key)
    (hbase : behind.run op s.behind = (reply, b))
    (hrun : (cached behind cache).run op s = (reply, ⟨b, s.generation, (cache.get key s.tiers).2⟩))
    (hsteps : tierSteps ((cachedOperate cache.hasRemote op).trace (cachedHandle behind cache) s) =
      (lookUp cache.hasRemote key).trace cache.handle s.tiers) :
    LeftAlone behind cache (.operation op : Request α) s where
  reply := by rw [UserService.answer, UserService.answer, hrun, hbase]
  handedOn := by rw [UserService.answer, UserService.answer, hrun, hbase]
  generation := by rw [UserService.answer, hrun]
  untouched hnone := by
    rw [hkey] at hnone
    cases hnone
  lookedUp {other} hsome := by
    rw [hkey] at hsome
    cases hsome
    exact ⟨by rw [UserService.answer, hrun], hsteps⟩

theorem create_failed {r : CreateRequest}
    (h : ((cached behind cache).run (.create r) s).1 = .error e) :
    LeftAlone behind cache (.operation (.create r) : Request α) s := by
  have hrun := cached_create behind cache r s
  rcases hbase : behind.run (.create r) s.behind with ⟨e' | u, b⟩
  · rw [hbase] at hrun
    refine leftAlone_of_untouched rfl hbase hrun ?_
    simp only [cachedOperate, cachedCreate]
    rw [Program.trace_monad_bind, run_askBase, hbase]
    rfl
  · rw [hrun, hbase] at h
    cases h

theorem get_failed {id : UserId} (h : ((cached behind cache).run (.get id) s).1 = .error e) :
    LeftAlone behind cache (.operation (.get id) : Request α) s := by
  have hrun := cached_get behind cache id s
  cases hfound : (cache.get (userKey id) s.tiers).1.bind decodeUser? with
  | some u =>
    rw [hrun, hfound] at h
    cases h
  | none =>
    rcases hbase : behind.run (.get id) s.behind with ⟨e' | u, b⟩
    · rw [hfound, hbase] at hrun
      refine leftAlone_of_lookedUp rfl hbase hrun ?_
      simp only [cachedOperate, cachedGet]
      rw [Program.trace_monad_bind, tierSteps_append, tierSteps_cachedUser, run_cachedUser, hfound]
      dsimp only
      rw [Program.trace_monad_bind, run_askBase, hbase]
      exact List.append_nil _
    · rw [hrun, hfound, hbase] at h
      cases h

theorem update_failed {id : UserId} {r : UpdateRequest}
    (h : ((cached behind cache).run (.update id r) s).1 = .error e) :
    LeftAlone behind cache (.operation (.update id r) : Request α) s := by
  have hrun := cached_update behind cache id r s
  rcases hbase : behind.run (.update id r) s.behind with ⟨e' | u, b⟩
  · rw [hbase] at hrun
    refine leftAlone_of_untouched rfl hbase hrun ?_
    simp only [cachedOperate, cachedUpdate]
    rw [Program.trace_monad_bind, run_askBase, hbase]
    rfl
  · rw [hrun, hbase] at h
    cases h

theorem delete_failed {id : UserId} (h : ((cached behind cache).run (.delete id) s).1 = .error e) :
    LeftAlone behind cache (.operation (.delete id) : Request α) s := by
  have hrun := cached_delete behind cache id s
  rcases hbase : behind.run (.delete id) s.behind with ⟨e' | u, b⟩
  · rw [hbase] at hrun
    refine leftAlone_of_untouched rfl hbase hrun ?_
    simp only [cachedOperate, cachedDelete]
    rw [Program.trace_monad_bind, run_askBase, hbase]
    rfl
  · rw [hrun, hbase] at h
    cases h

theorem list_failed {r : PageRequest} (h : ((cached behind cache).run (.list r) s).1 = .error e) :
    LeftAlone behind cache (.operation (.list r) : Request α) s := by
  have hrun := cached_list behind cache r s
  have hgeneration : (Program.take CachedAct.generation : CachedProgram Nat).run
      (cachedHandle behind cache) s = (s.generation.current, s) := rfl
  cases hfound : (cache.get (pageKey s.generation.current r) s.tiers).1.bind fun bytes =>
      (decodeBundle? bytes).map (·.page r) with
  | some p =>
    rw [hrun, hfound] at h
    cases h
  | none =>
    rcases hbase : behind.run (.list r) s.behind with ⟨e' | p, b⟩
    · rw [hfound, hbase] at hrun
      refine leftAlone_of_lookedUp rfl hbase hrun ?_
      simp only [cachedOperate, cachedList]
      rw [Program.trace_monad_bind, tierSteps_append, hgeneration]
      dsimp only
      rw [Program.trace_monad_bind, tierSteps_append, tierSteps_cachedPage, run_cachedPage, hfound]
      dsimp only
      rw [Program.trace_monad_bind, run_askBase, hbase]
      exact List.append_nil _
    · rw [hrun, hfound, hbase] at h
      cases h

/-- Whatever a request was to do, if it failed it has left the cache alone. -/
theorem answer_failed {q : Request α}
    (h : q.failure? ((cached behind cache).answer q s).1 = some e) : LeftAlone behind cache q s := by
  cases q with
  | transaction body =>
    refine ⟨rfl, rfl, rfl, fun _ => ⟨rfl, rfl⟩, fun hsome => ?_⟩
    cases hsome
  | operation op =>
    have herror : ∃ e, ((cached behind cache).run op s).1 = .error e := by
      revert h
      rw [UserService.answer]
      cases ((cached behind cache).run op s).1 with
      | error e => exact fun _ => ⟨e, rfl⟩
      | ok a => exact fun h => nomatch h
    obtain ⟨e, he⟩ := herror
    cases op with
    | create r => exact create_failed he
    | get id => exact get_failed he
    | update id r => exact update_failed he
    | delete id => exact delete_failed he
    | list r => exact list_failed he

end Failed

/-! ### Services that share a cache -/

/-- A new generation begins with every change that succeeds, and with nothing else. -/
theorem run_generation (behind : UserService σ) (cache : Layered ρ) (op : Operation)
    (s : CachedState σ ρ) :
    ((cached behind cache).run op s).2.generation =
      if op.changed ((cached behind cache).run op s).1 then s.generation.bump else s.generation := by
  cases op with
  | create r =>
    rw [cached_create]
    rcases behind.run (.create r) s.behind with ⟨e | u, b⟩ <;> rfl
  | get id =>
    rw [cached_get]
    cases (cache.get (userKey id) s.tiers).1.bind decodeUser? with
    | some u => rfl
    | none => rcases behind.run (.get id) s.behind with ⟨e | u, b⟩ <;> rfl
  | update id r =>
    rw [cached_update]
    rcases behind.run (.update id r) s.behind with ⟨e | u, b⟩ <;> rfl
  | delete id =>
    rw [cached_delete]
    rcases behind.run (.delete id) s.behind with ⟨e | u, b⟩ <;> rfl
  | list r =>
    rw [cached_list]
    cases (cache.get (pageKey s.generation.current r) s.tiers).1.bind fun bytes =>
        (decodeBundle? bytes).map (·.page r) with
    | some p => rfl
    | none => rcases behind.run (.list r) s.behind with ⟨e | p, b⟩ <;> rfl

/-- A request to one of several services. -/
structure Visit (ι α : Type) where
  service : ι
  request : Request α

/-- What a visit is answered. -/
abbrev Visit.Reply (v : Visit ι α) : Type := v.request.Reply

/-- Services with a cache that share their tiers and their generations, each in front of a service of
its own. -/
def sharing (behind : ι → UserService σ) (cache : Layered ρ) :
    Program.Handler (Visit ι α) Visit.Reply (CachedState σ ρ) :=
  fun v s => (cached (behind v.service) cache).answer v.request s

/-- How many visits have changed a directory. -/
def successes (answers : List ((v : Visit ι α) × v.Reply)) : Nat :=
  answers.countP fun a => a.1.request.changed a.2

theorem sharing_generation (behind : ι → UserService σ) (cache : Layered ρ) (v : Visit ι α)
    (s : CachedState σ ρ) :
    (sharing behind cache v s).2.generation =
      if v.request.changed (sharing behind cache v s).1 then s.generation.bump
      else s.generation := by
  rcases v with ⟨i, op | body⟩
  · exact run_generation (behind i) cache op s
  · rfl

/-- The generation is the number of changes that succeeded, counted on from where it started. -/
theorem generation_counts (behind : ι → UserService σ) (cache : Layered ρ) {s : CachedState σ ρ}
    (h : s.generation.current ≤ wordMax) (visits : List (Visit ι α)) :
    (Program.after (sharing behind cache) visits s).generation.current =
      wrapped (s.generation.current + successes (Program.answers (sharing behind cache) visits s)) := by
  induction visits generalizing s with
  | nil => exact (wrapped_of_le h).symm
  | cons v visits ih =>
    have hnext : (sharing behind cache v s).2.generation.current = wrapped (s.generation.current +
        if v.request.changed (sharing behind cache v s).1 then 1 else 0) := by
      rw [sharing_generation]
      split
      · rfl
      · exact (wrapped_of_le h).symm
    have hrest := ih (s := (sharing behind cache v s).2) (by rw [hnext]; exact wrapped_le _)
    rw [hnext] at hrest
    show (Program.after _ visits (sharing behind cache v s).2).generation.current = _
    rw [hrest]
    simp only [successes]
    rw [Program.answers, List.countP_cons]
    simp only [wrapped]
    omega

/-- After any visits the generation has been counted on by the changes that succeeded and by nothing
else, and a visit that fails was failed by the service behind, sets nothing, removes nothing and begins
no generation. -/
theorem failures_leave_cache (behind : ι → UserService σ) (cache : Layered ρ) {s : CachedState σ ρ}
    (h : s.generation.current ≤ wordMax) (visits : List (Visit ι α)) :
    (Program.after (sharing behind cache) visits s).generation.current =
        wrapped (s.generation.current +
          successes (Program.answers (sharing behind cache) visits s)) ∧
      ∀ (v : Visit ι α) (e : Failure),
        v.request.failure? (sharing behind cache v
          (Program.after (sharing behind cache) visits s)).1 = some e →
        LeftAlone (behind v.service) cache v.request
          (Program.after (sharing behind cache) visits s) :=
  ⟨generation_counts behind cache h visits, fun _ _ hfailed => answer_failed hfailed⟩

/-- Two services for a trial, in front of one that fails when it is told to. -/
def trialSharers : Bool → UserService (Watched (World Repository)) :=
  fun _ => watched (base tableBacking)

/-- The state they start from: the service behind them is to fail once. -/
def trialShared : CachedState (Watched (World Repository)) Unit :=
  ⟨{ Watched.start ⟨.empty, .still⟩ with failures := [.internal "disk full"] }, ⟨7⟩,
    Layered.start (.ofSizing ⟨12, 1200, 1⟩) ()⟩

/-- A creation that fails, the same one again, and a change that is refused. -/
def trialVisits : List (Visit Bool Unit) :=
  [⟨true, .operation (.create ⟨"Joan", "joan@x.com"⟩)⟩,
    ⟨false, .operation (.create ⟨"Joan", "joan@x.com"⟩)⟩,
    ⟨true, .operation (.update (.inSeries 0) ⟨some " ", none⟩)⟩]

theorem failures_leave_cache_in_trial :
    (Program.after (sharing trialSharers (.alone ⟨0⟩ ⟨0⟩)) trialVisits trialShared).generation.current =
        8 ∧
      LeftAlone (watched (base tableBacking)) (.alone ⟨0⟩ ⟨0⟩)
        (.operation (.get (.inSeries 1)) : Request Unit)
        (Program.after (sharing trialSharers (.alone ⟨0⟩ ⟨0⟩)) trialVisits trialShared) := by
  have hall := failures_leave_cache trialSharers (.alone ⟨0⟩ ⟨0⟩) (s := trialShared)
    (by decide) trialVisits
  refine ⟨hall.1.trans (by decide +kernel), ?_⟩
  exact hall.2 ⟨false, .operation (.get (.inSeries 1))⟩ (.noUser (.inSeries 1)) (by decide +kernel)

end Roster.Service
