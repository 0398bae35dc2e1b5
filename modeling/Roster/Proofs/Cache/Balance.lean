import Roster.Proofs.Cache.Calls
import Roster.Proofs.Cache.Tiers
import Roster.Proofs.Cache.Upkeep

/-!
# The counters balance

A cache counts its lookups by where they were answered, and the failures of its remote tier; the local
tier counts its lookups for itself, and the remote tier can tell what it has received. All of them tell of
the same calls, whatever the remote tier does to each.

* `Slow.watched` is a remote tier that notes what it receives and what trouble came of it. That it does so
  changes nothing else (`watched_after`).
* `Visit` is a call as it went: what the local tier answered, and what the cache did.
* `Balanced` says how counters and notes follow from the visits; `Balanced.step` is one call and
  `balanced_after` any number of them.
* `statistics_balance` is the result.
-/

namespace Roster.Cache

open Roster.Time

/-! ### Lookups in the local tier -/

namespace Local

/-- The hits and the misses. -/
def lookups (c : Local) : Nat × Nat := (c.hits, c.misses)

theorem lookups_maintain (c : Local) : c.maintain.lookups = c.lookups := by
  by_cases hm : c.maxCost = 0
  · rw [maintain_of_no_budget hm]
  · simp only [lookups]
    rw [maintain_eq_counted hm, counted_eq]

theorem lookups_logWrite (c : Local) (w : LoggedWrite) : (c.logWrite w).lookups = c.lookups := by
  simp only [logWrite]
  split
  · exact lookups_maintain c
  · rfl

theorem lookups_logRead (c : Local) (r : LoggedRead) : (c.logRead r).lookups = c.lookups := by
  simp only [logRead]
  split
  · exact lookups_maintain c
  · rfl

theorem lookups_set (c : Local) (key : String) (value : ByteArray) (cost : Nat) :
    (c.set key value cost).lookups = c.lookups := by
  have hwrite : (c.write key value cost).lookups = c.lookups := by
    simp only [write]
    split
    · rfl
    · split <;> exact lookups_logWrite _ _
  simp only [set]
  split
  · exact (lookups_maintain _).trans hwrite
  · exact hwrite

theorem lookups_delete (c : Local) (key : String) : (c.delete key).lookups = c.lookups := by
  simp only [delete]
  split
  · rfl
  · exact lookups_logWrite _ _

/-- A lookup is counted by its answer. -/
theorem lookups_get (c : Local) (key : String) :
    (c.get key).2.lookups =
      (c.hits + (c.get key).1.isSome.toNat, c.misses + (c.get key).1.isNone.toNat) := by
  simp only [get]
  split
  · rfl
  · split
    · rename_i e _
      have hlog := lookups_logRead c ⟨key, some e.life⟩
      exact congrArg (fun n => (n.1 + 1, n.2)) hlog
    · have hlog := lookups_logRead c ⟨key, none⟩
      exact congrArg (fun n => (n.1, n.2 + 1)) hlog

end Local

/-! ### A remote tier that is watched -/

/-- A call as a remote tier receives it. -/
inductive Request where
  | get (key : String)
  | set (key : String) (value : ByteArray) (ttl : Duration)
  | delete (key : String)

/-- A call that a remote tier has received, and the trouble that it came to, if any. -/
structure Received where
  request : Request
  trouble : Option Trouble

/-- Whether a call failed or took too long. That there is no entry is no failure of a lookup. -/
def Received.failed : Received → Bool
  | ⟨.get _, some .miss⟩ => false
  | ⟨_, trouble⟩ => trouble.isSome

/-- The trouble that an answer is, if it is one. -/
def trouble? {α : Type} : Except Trouble α → Option Trouble
  | .ok _ => none
  | .error e => some e

variable {ρ : Type}

/-- A call with a note of it, as it looks from outside when there is so much time for it. -/
def Attempt.noted {α : Type} (limit : Duration) (request : Request) (notes : List Received)
    (a : Attempt ρ α) : Attempt (ρ × List Received) α :=
  let notes := notes ++ [⟨request, trouble? (a.within limit).1⟩]
  ⟨a.delay, (a.started, notes), a.answer, (a.ended, notes)⟩

/-- A remote tier that notes what it receives. -/
def Slow.watched (limit : Duration) (r : Slow ρ) : Slow (ρ × List Received) where
  get key s := (r.get key s.1).noted limit (.get key) s.2
  set key value ttl s := (r.set key value ttl s.1).noted limit (.set key value ttl) s.2
  delete key s := (r.delete key s.1).noted limit (.delete key) s.2

theorem Attempt.within_noted {α : Type} (limit : Duration) (request : Request)
    (notes : List Received) (a : Attempt ρ α) :
    (a.noted limit request notes).within limit = ((a.within limit).1,
      ((a.within limit).2, notes ++ [⟨request, trouble? (a.within limit).1⟩])) := by
  obtain ⟨delay, started, answer, ended⟩ := a
  simp only [noted, within]
  cases delay with
  | none => rfl
  | some d =>
    dsimp only
    split <;> rfl

section Within

variable (r : Slow ρ) (limit : Duration) (key : String) (s : ρ × List Received)

theorem Slow.get_watched : ((r.watched limit).within limit).get key s =
    (((r.within limit).get key s.1).1, (((r.within limit).get key s.1).2,
      s.2 ++ [⟨.get key, trouble? ((r.within limit).get key s.1).1⟩])) :=
  Attempt.within_noted ..

theorem Slow.set_watched (value : ByteArray) (ttl : Duration) :
    ((r.watched limit).within limit).set key value ttl s =
      (((r.within limit).set key value ttl s.1).1, (((r.within limit).set key value ttl s.1).2,
        s.2 ++ [⟨.set key value ttl, trouble? ((r.within limit).set key value ttl s.1).1⟩])) :=
  Attempt.within_noted ..

theorem Slow.delete_watched : ((r.watched limit).within limit).delete key s =
    (((r.within limit).delete key s.1).1, (((r.within limit).delete key s.1).2,
      s.2 ++ [⟨.delete key, trouble? ((r.within limit).delete key s.1).1⟩])) :=
  Attempt.within_noted ..

end Within

namespace Layered

/-- The cache with its remote tier watched, if there is one. -/
def watched (c : Layered ρ) : Layered (ρ × List Received) :=
  ⟨c.remote.map (Slow.watched c.timeout), c.ttl, c.timeout⟩

/-- Tiers with a blank sheet for notes. -/
def blank (s : Tiers ρ) : Tiers (ρ × List Received) := ⟨s.near, (s.far, []), s.stats⟩

/-- Tiers without the notes. -/
def unwatched (t : Tiers (ρ × List Received)) : Tiers ρ := ⟨t.near, t.far.1, t.stats⟩

/-- What the remote tier receives in calls one after another. -/
def received (c : Layered ρ) (calls : List CacheCall) (s : Tiers ρ) : List Received :=
  (Program.after c.watched.perform calls (blank s)).far.2

theorem handle_watched (c : Layered ρ) (x : TierCall) (t : Tiers (ρ × List Received)) :
    ((c.watched.handle x t).1, unwatched (c.watched.handle x t).2) = c.handle x (unwatched t) := by
  cases hremote : c.remote with
  | none =>
    have hwatched : c.watched.remote = none := congrArg (Option.map _) hremote
    simp only [handle, hremote, hwatched]
    cases x <;> rfl
  | some r =>
    have hwatched : c.watched.remote = some (r.watched c.timeout) := congrArg (Option.map _) hremote
    cases x with
    | localGet key => rfl
    | localSet key value => rfl
    | localDelete key => rfl
    | tally counter => rfl
    | remoteGet key =>
      rw [handle_remoteGet hwatched, handle_remoteGet hremote]
      simp only [watched, Slow.get_watched]
      rfl
    | remoteSet key value =>
      rw [handle_remoteSet hwatched, handle_remoteSet hremote]
      simp only [watched, Slow.set_watched]
      rfl
    | remoteDelete key =>
      rw [handle_remoteDelete hwatched, handle_remoteDelete hremote]
      simp only [watched, Slow.delete_watched]
      rfl

/-- Nor does it make a difference to any operation. -/
theorem run_watched {α : Type} (c : Layered ρ) (p : Bool → TierProgram α)
    (t : Tiers (ρ × List Received)) :
    (((p c.watched.hasRemote).run c.watched.handle t).1,
        unwatched ((p c.watched.hasRemote).run c.watched.handle t).2) =
      (p c.hasRemote).run c.handle (unwatched t) := by
  have hsame : c.watched.hasRemote = c.hasRemote := Option.isSome_map
  rw [hsame]
  exact Program.run_forget c.handle_watched _ t

theorem perform_watched (c : Layered ρ) (call : CacheCall) (t : Tiers (ρ × List Received)) :
    ((c.watched.perform call t).1, unwatched (c.watched.perform call t).2) =
      c.perform call (unwatched t) := by
  cases call with
  | get key => exact c.run_watched (lookUp · key) t
  | set key value => exact congrArg (fun r => ((), r.2)) (c.run_watched (store · key value) t)
  | delete key => exact congrArg (fun r => ((), r.2)) (c.run_watched (remove · key) t)
  | flush => rfl

/-- That the remote tier is watched makes no difference to any call. -/
theorem watched_after (c : Layered ρ) (calls : List CacheCall) (s : Tiers ρ) :
    Program.answers c.watched.perform calls (blank s) = Program.answers c.perform calls s ∧
      unwatched (Program.after c.watched.perform calls (blank s)) =
        Program.after c.perform calls s :=
  Program.after_forget c.perform_watched calls (blank s)

end Layered

/-! ### Visits -/

/-- Whether a call is a lookup. -/
def CacheCall.isGet : CacheCall → Bool
  | .get _ => true
  | _ => false

/-- A call as it went: what the local tier answered by itself, and what the cache answered. -/
structure Visit where
  call : CacheCall
  near : call.Reply
  answer : call.Reply

namespace Visit

/-- The local tier had it. -/
def foundNear (v : Visit) : Bool := v.call.found v.near

/-- The local tier did not have it. -/
def missedNear (v : Visit) : Bool := v.call.missed v.near

/-- The local tier did not have it, and there was an answer all the same. -/
def foundFar (v : Visit) : Bool := v.missedNear && v.call.found v.answer

/-- The local tier did not have it, and there was no answer. -/
def notFound (v : Visit) : Bool := v.missedNear && v.call.missed v.answer

/-- What a remote tier has to receive: a lookup that missed in the local tier, and every write. -/
def requests (ttl : Duration) : Visit → List Request
  | ⟨.get key, none, _⟩ => [.get key]
  | ⟨.get _, some _, _⟩ => []
  | ⟨.set key value, _, _⟩ => [.set key value ttl]
  | ⟨.delete key, _, _⟩ => [.delete key]
  | ⟨.flush, _, _⟩ => []

/-- A lookup is found in the local tier, found elsewhere, or not found, and nothing else is. -/
theorem kinds (v : Visit) :
    v.foundNear.toNat + v.foundFar.toNat + v.notFound.toNat = v.call.isGet.toNat ∧
      v.foundFar.toNat + v.notFound.toNat = v.missedNear.toNat := by
  obtain ⟨call, near, answer⟩ := v
  cases call with
  | get key => cases near <;> cases answer <;> exact ⟨rfl, rfl⟩
  | set key value => exact ⟨rfl, rfl⟩
  | delete key => exact ⟨rfl, rfl⟩
  | flush => exact ⟨rfl, rfl⟩

end Visit

namespace Layered

/-- How a call goes. -/
def visit (c : Layered ρ) (call : CacheCall) (s : Tiers ρ) : Visit :=
  ⟨call, (Local.perform call s.near).1, (c.perform call s).1⟩

/-- How calls go one after another. -/
def visits (c : Layered ρ) : List CacheCall → Tiers ρ → List Visit
  | [], _ => []
  | call :: calls, s => c.visit call s :: visits c calls (c.perform call s).2

theorem visits_concat (c : Layered ρ) (calls : List CacheCall) (call : CacheCall) (s : Tiers ρ) :
    c.visits (calls ++ [call]) s =
      c.visits calls s ++ [c.visit call (Program.after c.perform calls s)] := by
  induction calls generalizing s with
  | nil => rfl
  | cons first calls ih => rw [List.cons_append, visits, ih, visits, Program.after, List.cons_append]

/-- What the remote tier has to receive, if there is one. -/
def due (c : Layered ρ) (v : Visit) : List Request := if c.hasRemote then v.requests c.ttl else []

theorem due_of_none {c : Layered ρ} (h : c.remote = none) (v : Visit) : c.due v = [] := by
  unfold due hasRemote
  rw [h]
  rfl

theorem due_of_some {c : Layered ρ} {r : Slow ρ} (h : c.remote = some r) (v : Visit) :
    c.due v = v.requests c.ttl := by
  unfold due hasRemote
  rw [h]
  rfl

/-! ### One call -/

/-- What a call adds to the counters and to the notes of the remote tier, given how it went. -/
structure Adds (c : Layered ρ) (v : Visit) (before after : Tiers (ρ × List Received)) : Prop where
  localHits : after.stats.localHits = before.stats.localHits + v.foundNear.toNat
  remoteHits : after.stats.remoteHits = before.stats.remoteHits + v.foundFar.toNat
  misses : after.stats.misses = before.stats.misses + v.notFound.toNat
  near : after.near.lookups =
    (before.near.hits + v.foundNear.toNat, before.near.misses + v.missedNear.toNat)
  notes : ∃ new, after.far.2 = before.far.2 ++ new ∧ c.due v = new.map Received.request ∧
    after.stats.remoteErrors = before.stats.remoteErrors + new.countP Received.failed

theorem adds_get (c : Layered ρ) (key : String) (t : Tiers (ρ × List Received)) :
    Adds c ⟨.get key, (t.near.get key).1, (c.get key (unwatched t)).1⟩ t
      (c.watched.get key t).2 := by
  have hlookups := Local.lookups_get t.near key
  rw [get_eq, get_eq]
  simp only [unwatched, watched]
  generalize t.near.get key = found at hlookups ⊢
  obtain ⟨found, near⟩ := found
  cases hremote : c.remote with
  | none =>
    cases found <;>
      exact ⟨rfl, rfl, rfl, hlookups, [], (List.append_nil _).symm, due_of_none hremote _, rfl⟩
  | some r =>
    cases found with
    | some value =>
      exact ⟨rfl, rfl, rfl, hlookups, [], (List.append_nil _).symm, due_of_some hremote _, rfl⟩
    | none =>
      dsimp only [Option.map_some]
      rw [Slow.get_watched]
      rcases (r.within c.timeout).get key t.far.1 with ⟨e | value, far⟩
      · cases e <;>
          exact ⟨rfl, rfl, rfl, hlookups, _, rfl, due_of_some hremote _, rfl⟩
      · have hcopied := (Local.lookups_set near key value value.size).trans hlookups
        exact ⟨rfl, rfl, rfl, hcopied, _, rfl, due_of_some hremote _, rfl⟩

theorem adds_set (c : Layered ρ) (key : String) (value : ByteArray) (t : Tiers (ρ × List Received)) :
    Adds c ⟨.set key value, (), ()⟩ t (c.watched.set key value t) := by
  have hlookups := Local.lookups_set t.near key value value.size
  rw [set_eq]
  simp only [watched]
  cases hremote : c.remote with
  | none =>
    exact ⟨rfl, rfl, rfl, hlookups, [], (List.append_nil _).symm, due_of_none hremote _, rfl⟩
  | some r =>
    dsimp only [Option.map_some]
    rw [Slow.set_watched]
    rcases (r.within c.timeout).set key value c.ttl t.far.1 with ⟨e | _, far⟩ <;>
      exact ⟨rfl, rfl, rfl, hlookups, _, rfl, due_of_some hremote _, rfl⟩

theorem adds_delete (c : Layered ρ) (key : String) (t : Tiers (ρ × List Received)) :
    Adds c ⟨.delete key, (), ()⟩ t (c.watched.delete key t) := by
  have hlookups := Local.lookups_delete t.near key
  rw [delete_eq]
  simp only [watched]
  cases hremote : c.remote with
  | none =>
    exact ⟨rfl, rfl, rfl, hlookups, [], (List.append_nil _).symm, due_of_none hremote _, rfl⟩
  | some r =>
    dsimp only [Option.map_some]
    rw [Slow.delete_watched]
    rcases (r.within c.timeout).delete key t.far.1 with ⟨e | _, far⟩ <;>
      exact ⟨rfl, rfl, rfl, hlookups, _, rfl, due_of_some hremote _, rfl⟩

/-- Every call adds up. -/
theorem adds_perform (c : Layered ρ) (call : CacheCall) (t : Tiers (ρ × List Received)) :
    Adds c (c.visit call (unwatched t)) t (c.watched.perform call t).2 := by
  cases call with
  | get key => exact adds_get c key t
  | set key value => exact adds_set c key value t
  | delete key => exact adds_delete c key t
  | flush =>
    have hdue : c.due ⟨.flush, (), ()⟩ = [] := by
      unfold due
      exact ite_self _
    exact ⟨rfl, rfl, rfl, Local.lookups_maintain t.near, [], (List.append_nil _).symm, hdue, rfl⟩

/-! ### Calls one after another -/

/-- Counters and notes follow from how the calls went. -/
structure Balanced (c : Layered ρ) (visits : List Visit) (t : Tiers (ρ × List Received)) : Prop where
  localHits : t.stats.localHits = visits.countP Visit.foundNear
  remoteHits : t.stats.remoteHits = visits.countP Visit.foundFar
  misses : t.stats.misses = visits.countP Visit.notFound
  near : t.near.lookups = (visits.countP Visit.foundNear, visits.countP Visit.missedNear)
  requests : t.far.2.map Received.request = visits.flatMap c.due
  remoteErrors : t.stats.remoteErrors = t.far.2.countP Received.failed

theorem balanced_start (c : Layered ρ) (sizing : Sizing) (far : ρ) :
    Balanced c [] (blank (start (.ofSizing sizing) far)) :=
  ⟨rfl, rfl, rfl, rfl, rfl, rfl⟩

theorem countP_concat {α : Type} (p : α → Bool) (l : List α) (a : α) :
    (l ++ [a]).countP p = l.countP p + (p a).toNat := by
  rw [List.countP_append, List.countP_singleton]
  cases p a <;> rfl

/-- What balances does so after a call that adds up. -/
theorem Balanced.step {c : Layered ρ} {visits : List Visit} {v : Visit}
    {t t' : Tiers (ρ × List Received)} (h : Balanced c visits t) (hadds : Adds c v t t') :
    Balanced c (visits ++ [v]) t' := by
  obtain ⟨hhits, hmisses⟩ := Prod.mk.inj h.near
  obtain ⟨new, hfar, hdue, herrors⟩ := hadds.notes
  refine ⟨?_, ?_, ?_, ?_, ?_, ?_⟩
  · rw [hadds.localHits, h.localHits, countP_concat]
  · rw [hadds.remoteHits, h.remoteHits, countP_concat]
  · rw [hadds.misses, h.misses, countP_concat]
  · rw [hadds.near, countP_concat, countP_concat, ← hhits, ← hmisses]
  · rw [hfar, List.map_append, h.requests, List.flatMap_append, ← hdue, List.flatMap_singleton]
  · rw [herrors, hfar, List.countP_append, h.remoteErrors]

theorem balanced_after (c : Layered ρ) (sizing : Sizing) (far : ρ) (calls : List CacheCall) :
    Balanced c (c.visits calls (start (.ofSizing sizing) far))
      (Program.after c.watched.perform calls (blank (start (.ofSizing sizing) far))) := by
  induction calls using List.reverseRecOn with
  | nil => exact balanced_start c sizing far
  | append_singleton calls call ih =>
    have hstep := adds_perform c call
      (Program.after c.watched.perform calls (blank (start (.ofSizing sizing) far)))
    rw [(c.watched_after calls _).2] at hstep
    rw [visits_concat, Program.after_append]
    exact ih.step hstep

/-- Lookups are found in the local tier, found elsewhere, or not found. -/
theorem countP_kinds (visits : List Visit) :
    visits.countP Visit.foundNear + visits.countP Visit.foundFar + visits.countP Visit.notFound =
        (visits.map Visit.call).countP CacheCall.isGet ∧
      visits.countP Visit.foundFar + visits.countP Visit.notFound =
        visits.countP Visit.missedNear := by
  induction visits using List.reverseRecOn with
  | nil => exact ⟨rfl, rfl⟩
  | append_singleton visits v ih =>
    obtain ⟨hkinds, hmissed⟩ := v.kinds
    rw [List.map_append, List.map_singleton]
    simp only [countP_concat]
    omega

theorem calls_visits (c : Layered ρ) (calls : List CacheCall) (s : Tiers ρ) :
    (c.visits calls s).map Visit.call = calls := by
  induction calls generalizing s with
  | nil => rfl
  | cons call calls ih => rw [visits, List.map_cons, ih]; rfl

/-- The counters of a cache, those of its local tier and what its remote tier has received tell of the
same calls. -/
structure Accounts (c : Layered ρ) (calls : List CacheCall) (visits : List Visit)
    (received : List Received) (s : Tiers ρ) : Prop where
  lookups : s.stats.localHits + s.stats.remoteHits + s.stats.misses = calls.countP CacheCall.isGet
  nearHits : s.near.hits = s.stats.localHits
  nearMisses : s.near.misses = s.stats.remoteHits + s.stats.misses
  localHits : s.stats.localHits = visits.countP Visit.foundNear
  remoteHits : s.stats.remoteHits = visits.countP Visit.foundFar
  requests : received.map Received.request = visits.flatMap c.due
  remoteErrors : s.stats.remoteErrors = received.countP Received.failed

/-- **The counters balance.**  After any calls on a new cache, whatever its remote tier does to each or
if there is none: every lookup is counted once, as found in the local tier, found elsewhere or not found;
the local tier has counted the same; the remote tier has received a lookup for each that missed in the
local tier, every value that was set with the time to keep it, and every deletion, in this order and
nothing else; and its failures are counted, a lookup for which there is no entry not being one. What it
has received is what it notes when it is watched, which makes no difference otherwise. -/
theorem statistics_balance (c : Layered ρ) (sizing : Sizing) (far : ρ) (calls : List CacheCall) :
    Accounts c calls (c.visits calls (start (.ofSizing sizing) far))
      (c.received calls (start (.ofSizing sizing) far))
      (Program.after c.perform calls (start (.ofSizing sizing) far)) ∧
    (c.visits calls (start (.ofSizing sizing) far)).map Visit.call = calls ∧
    Program.answers c.watched.perform calls (blank (start (.ofSizing sizing) far)) =
      Program.answers c.perform calls (start (.ofSizing sizing) far) ∧
    unwatched (Program.after c.watched.perform calls (blank (start (.ofSizing sizing) far))) =
      Program.after c.perform calls (start (.ofSizing sizing) far) := by
  have hcalls := c.calls_visits calls (start (.ofSizing sizing) far)
  have hwatched := c.watched_after calls (start (.ofSizing sizing) far)
  refine ⟨?_, hcalls, hwatched⟩
  have hbalanced := balanced_after c sizing far calls
  obtain ⟨hhits, hmisses⟩ := Prod.mk.inj hbalanced.near
  obtain ⟨hkinds, hmissed⟩ := countP_kinds (c.visits calls (start (.ofSizing sizing) far))
  rw [hcalls] at hkinds
  rw [← hwatched.2]
  refine ⟨?_, hhits.trans hbalanced.localHits.symm, ?_, hbalanced.localHits, hbalanced.remoteHits,
    hbalanced.requests, hbalanced.remoteErrors⟩
  · rw [← hkinds, ← hbalanced.localHits, ← hbalanced.remoteHits, ← hbalanced.misses]
    rfl
  · rw [← hmissed, ← hbalanced.remoteHits, ← hbalanced.misses] at hmisses
    exact hmisses

end Layered

end Roster.Cache
