import Roster.Proofs.Cache.Calls
import Roster.Proofs.Cache.Recalled

/-!
# Remote tiers that are of no use

A cache may have no remote tier, or one that never has anything, or one of which every call fails. It
then does what its local tier would do alone, and only the counters tell which of the three it is.

* `Remote.Misses` is a tier that never has anything, `Slow.Fails` one of which every call fails.
* `Layered.Unusable` says what the operations of a cache come to then; `unusable_of_none`,
  `unusable_of_misses` and `unusable_of_fails` say that it is so in all three cases.
* `Unusable.step` compares one call on the cache with the call on its local tier alone, and
  `Unusable.run` any number of them.
-/

namespace Roster.Cache

open Roster.Time

variable {ρ : Type}

/-! ### Remote tiers -/

/-- In the states that satisfy `may`, a remote tier answers every lookup with a miss, and every write
with success. -/
structure Remote.Misses (r : Remote ρ) (may : ρ → Prop) : Prop where
  get_miss {s : ρ} (key : String) :
    may s → (r.get key s).1 = .error .miss ∧ may (r.get key s).2
  set_ok {s : ρ} (key : String) (value : ByteArray) (ttl : Duration) :
    may s → (r.set key value ttl s).1 = .ok () ∧ may (r.set key value ttl s).2
  delete_ok {s : ρ} (key : String) :
    may s → (r.delete key s).1 = .ok () ∧ may (r.delete key s).2

/-- A call takes longer than the limit, or is answered with a trouble that is not a miss. -/
def Attempt.Fails {α : Type} (limit : Duration) (a : Attempt ρ α) : Prop :=
  (∀ d, a.delay = some d → limit.nanos < d.nanos) ∨ ∃ e, e ≠ .miss ∧ a.answer = .error e

/-- In the states that satisfy `may`, every call on a remote tier fails, each in its own way. -/
structure Slow.Fails (r : Slow ρ) (limit : Duration) (may : ρ → Prop) : Prop where
  get_fails {s : ρ} (key : String) :
    may s → (r.get key s).Fails limit ∧ may ((r.get key s).within limit).2
  set_fails {s : ρ} (key : String) (value : ByteArray) (ttl : Duration) :
    may s → (r.set key value ttl s).Fails limit ∧ may ((r.set key value ttl s).within limit).2
  delete_fails {s : ρ} (key : String) :
    may s → (r.delete key s).Fails limit ∧ may ((r.delete key s).within limit).2

/-- A call that fails comes to a trouble that is not a miss. -/
theorem Attempt.Fails.within {α : Type} {limit : Duration} {a : Attempt ρ α} (h : a.Fails limit) :
    ∃ e, e ≠ .miss ∧ (a.within limit).1 = .error e := by
  have hlate : (∀ d, a.delay = some d → limit.nanos < d.nanos) →
      (a.within limit).1 = .error (.timeout limit) := by
    intro hdelay
    simp only [Attempt.within]
    cases hd : a.delay with
    | none => rfl
    | some d =>
      have hlong := hdelay d hd
      dsimp only
      rw [if_neg (by omega)]
  rcases h with hdelay | ⟨e, hne, hanswer⟩
  · exact ⟨.timeout limit, by simp, hlate hdelay⟩
  · by_cases hdelay : ∀ d, a.delay = some d → limit.nanos < d.nanos
    · exact ⟨.timeout limit, by simp, hlate hdelay⟩
    · refine ⟨e, hne, ?_⟩
      obtain ⟨d, hd⟩ := Classical.not_forall.1 hdelay
      obtain ⟨hsome, hshort⟩ := Classical.not_imp.1 hd
      simp only [Attempt.within]
      rw [hsome]
      dsimp only
      rw [if_pos (by omega)]
      exact hanswer

namespace Layered

/-! ### The operations -/

/-- The counters after a call on the remote tier, if calls on it are troubled. -/
def bothered (troubled : Bool) (stats : Stats) : Stats :=
  if troubled then stats.advance .remoteError else stats

/-- The counters after a lookup to which the local tier has given this answer. -/
def lookedUp (troubled : Bool) (stats : Stats) : Option ByteArray → Stats
  | some _ => stats.advance .localHit
  | none => (bothered troubled stats).advance .miss

/-- Every operation does to the local tier what it would do there alone, and answers the same. If the
remote tier is asked at all, this is counted as a trouble or not at all. -/
structure Unusable (c : Layered ρ) (may : ρ → Prop) (troubled : Bool) : Prop where
  get_alone {s : Tiers ρ} (key : String) : may s.far → ∃ far, may far ∧
    c.get key s = ((s.near.get key).1,
      ⟨(s.near.get key).2, far, lookedUp troubled s.stats (s.near.get key).1⟩)
  set_alone {s : Tiers ρ} (key : String) (value : ByteArray) : may s.far → ∃ far, may far ∧
    c.set key value s = ⟨s.near.set key value value.size, far, bothered troubled s.stats⟩
  delete_alone {s : Tiers ρ} (key : String) : may s.far → ∃ far, may far ∧
    c.delete key s = ⟨s.near.delete key, far, bothered troubled s.stats⟩

theorem unusable_of_none {c : Layered ρ} (h : c.remote = none) :
    c.Unusable (fun _ => True) false where
  get_alone {s} key _ := by
    refine ⟨s.far, trivial, ?_⟩
    rw [get_eq, h]
    rcases s.near.get key with ⟨_ | value, near⟩ <;> rfl
  set_alone {s} key value _ := by
    refine ⟨s.far, trivial, ?_⟩
    rw [set_eq, h]
    rfl
  delete_alone {s} key _ := by
    refine ⟨s.far, trivial, ?_⟩
    rw [delete_eq, h]
    rfl

theorem unusable_of_misses {c : Layered ρ} {r : Slow ρ} (h : c.remote = some r) {may : ρ → Prop}
    (hmiss : (r.within c.timeout).Misses may) : c.Unusable may false where
  get_alone {s} key hs := by
    rw [get_eq, h]
    rcases s.near.get key with ⟨_ | value, near⟩
    · obtain ⟨hanswer, hmay⟩ := hmiss.get_miss key hs
      refine ⟨((r.within c.timeout).get key s.far).2, hmay, ?_⟩
      revert hanswer
      dsimp only
      rcases (r.within c.timeout).get key s.far with ⟨answer, far⟩
      rintro rfl
      rfl
    · exact ⟨s.far, hs, rfl⟩
  set_alone {s} key value hs := by
    obtain ⟨hanswer, hmay⟩ := hmiss.set_ok key value c.ttl hs
    refine ⟨_, hmay, ?_⟩
    rw [set_eq, h]
    dsimp only
    rw [hanswer]
    rfl
  delete_alone {s} key hs := by
    obtain ⟨hanswer, hmay⟩ := hmiss.delete_ok key hs
    refine ⟨_, hmay, ?_⟩
    rw [delete_eq, h]
    dsimp only
    rw [hanswer]
    rfl

theorem unusable_of_fails {c : Layered ρ} {r : Slow ρ} (h : c.remote = some r) {may : ρ → Prop}
    (hfail : r.Fails c.timeout may) : c.Unusable may true where
  get_alone {s} key hs := by
    rw [get_eq, h]
    rcases s.near.get key with ⟨_ | value, near⟩
    · obtain ⟨hfails, hmay⟩ := hfail.get_fails key hs
      obtain ⟨e, hne, hanswer⟩ := hfails.within
      refine ⟨((r.within c.timeout).get key s.far).2, hmay, ?_⟩
      change ((r.within c.timeout).get key s.far).1 = _ at hanswer
      revert hanswer
      dsimp only
      rcases (r.within c.timeout).get key s.far with ⟨answer, far⟩
      rintro rfl
      cases e with
      | miss => exact absurd rfl hne
      | unavailable reason => rfl
      | timeout after => rfl
      | unreadable reason => rfl
    · exact ⟨s.far, hs, rfl⟩
  set_alone {s} key value hs := by
    obtain ⟨hfails, hmay⟩ := hfail.set_fails key value c.ttl hs
    obtain ⟨e, -, hanswer⟩ := hfails.within
    refine ⟨_, hmay, ?_⟩
    rw [set_eq, h]
    dsimp only [Slow.within]
    rw [hanswer]
    rfl
  delete_alone {s} key hs := by
    obtain ⟨hfails, hmay⟩ := hfail.delete_fails key hs
    obtain ⟨e, -, hanswer⟩ := hfails.within
    refine ⟨_, hmay, ?_⟩
    rw [delete_eq, h]
    dsimp only [Slow.within]
    rw [hanswer]
    rfl

end Layered

/-! ### Calls one after another -/

namespace Layered

/-- The counters after calls with these answers. -/
def counted (troubled : Bool) (stats : Stats) (answers : List ((call : CacheCall) × call.Reply)) :
    Stats where
  localHits := stats.localHits + answers.countP fun a => a.1.found a.2
  remoteHits := stats.remoteHits
  misses := stats.misses + answers.countP fun a => a.1.missed a.2
  remoteErrors := stats.remoteErrors +
    if troubled then answers.countP fun a => a.1.goesFar a.2 else 0

theorem counted_cons (troubled : Bool) (stats : Stats) (a : (call : CacheCall) × call.Reply)
    (answers : List ((call : CacheCall) × call.Reply)) :
    counted troubled (counted troubled stats [a]) answers = counted troubled stats (a :: answers) := by
  simp only [counted, List.countP_cons, List.countP_nil, Stats.mk.injEq]
  refine ⟨by omega, trivial, by omega, ?_⟩
  cases troubled with
  | false => rfl
  | true =>
    simp only [if_true]
    omega

namespace Unusable

variable {c : Layered ρ} {may : ρ → Prop} {troubled : Bool} (h : c.Unusable may troubled)
  {s : Tiers ρ} (hs : may s.far)

include h hs

/-- A call does to the local tier what it would do to it alone, answers the same, and is counted. -/
theorem step (call : CacheCall) : ∃ far, may far ∧ c.perform call s =
    ((Local.perform call s.near).1, ⟨(Local.perform call s.near).2, far,
      counted troubled s.stats [⟨call, (Local.perform call s.near).1⟩]⟩) := by
  cases call with
  | get key =>
    obtain ⟨far, hmay, hget⟩ := h.get_alone key hs
    refine ⟨far, hmay, ?_⟩
    show c.get key s = ((s.near.get key).1, ⟨(s.near.get key).2, far, _⟩)
    rw [hget]
    show _ = ((s.near.get key).1, (⟨(s.near.get key).2, far,
      counted troubled s.stats [⟨.get key, (s.near.get key).1⟩]⟩ : Tiers ρ))
    cases (s.near.get key).1 <;> cases troubled <;> rfl
  | set key value =>
    obtain ⟨far, hmay, hset⟩ := h.set_alone key value hs
    refine ⟨far, hmay, ?_⟩
    show ((), c.set key value s) = ((), ⟨s.near.set key value value.size, far, _⟩)
    rw [hset]
    cases troubled <;> rfl
  | delete key =>
    obtain ⟨far, hmay, hdelete⟩ := h.delete_alone key hs
    refine ⟨far, hmay, ?_⟩
    show ((), c.delete key s) = ((), ⟨s.near.delete key, far, _⟩)
    rw [hdelete]
    cases troubled <;> rfl
  | flush =>
    refine ⟨s.far, hs, ?_⟩
    cases troubled <;> rfl

/-- Any calls are answered as by the local tier alone, which ends as it would alone. -/
theorem run (calls : List CacheCall) :
    Program.answers c.perform calls s = Program.answers Local.perform calls s.near ∧
      (Program.after c.perform calls s).near = Program.after Local.perform calls s.near ∧
      (Program.after c.perform calls s).stats =
        counted troubled s.stats (Program.answers Local.perform calls s.near) := by
  induction calls generalizing s with
  | nil =>
    refine ⟨rfl, rfl, ?_⟩
    cases troubled <;> rfl
  | cons call calls ih =>
    obtain ⟨far, hmay, hstep⟩ := h.step hs call
    obtain ⟨hanswers, hnear, hstats⟩ := ih (s := (c.perform call s).2) (by rw [hstep]; exact hmay)
    rw [hstep] at hanswers hnear hstats
    refine ⟨?_, ?_, ?_⟩
    · rw [Program.answers, Program.answers, hstep, hanswers]
    · rw [Program.after, Program.after, hstep, hnear]
    · rw [Program.after, Program.answers, hstep, hstats, counted_cons]

end Unusable

end Layered

/-! ### Simulated tiers -/

theorem Simulated.attempt_within_empty {α : Type} {s : Simulated} (hs : s.behaviour = .empty)
    (limit : Duration) (asMap : Except Trouble α × Simulated) (asEmpty : Except Trouble α) :
    (s.attempt asMap asEmpty).within limit = (asEmpty, s) := by
  simp only [Simulated.attempt]
  rw [hs]
  exact Attempt.within_at_once limit ..

/-- A simulated tier that is always empty never has anything, however little time it is given. -/
theorem Simulated.misses (limit : Duration) :
    (Simulated.tier.within limit).Misses (fun s => s.behaviour = .empty) where
  get_miss {s} key hs := by
    have hget := attempt_within_empty (s := s.note (.get key)) hs limit
      (s.lookUp key, s.note (.get key)) (.error .miss)
    exact ⟨congrArg Prod.fst hget, (congrArg (fun a => a.2.behaviour) hget).trans hs⟩
  set_ok {s} key value ttl hs := by
    have hset := attempt_within_empty (s := s.note (.set key value.size ttl)) hs limit
      (.ok (), { s.note (.set key value.size ttl) with entries := Keyed.put s.entries key value })
      (.ok ())
    exact ⟨congrArg Prod.fst hset, (congrArg (fun a => a.2.behaviour) hset).trans hs⟩
  delete_ok {s} key hs := by
    have hdelete := attempt_within_empty (s := s.note (.delete key)) hs limit
      (.ok (), { s.note (.delete key) with entries := Keyed.erase s.entries key }) (.ok ())
    exact ⟨congrArg Prod.fst hdelete, (congrArg (fun a => a.2.behaviour) hdelete).trans hs⟩

/-- A call with this fate fails, and not by a miss. -/
def Fate.Hopeless : Fate → Prop
  | .works => False
  | .fails trouble => trouble ≠ .miss
  | .late _ => True

namespace Wayward

/-- A call whose fate is hopeless fails, whatever it was to do, and so will the next ones. -/
theorem attempt_fails {s : Wayward} (h : ∀ n, (s.fates n).Hopeless) {α : Type}
    (change : Option Change) (answer : Keyed String ByteArray → Except Trouble α) (limit : Duration) :
    (s.attempt change answer).Fails limit ∧
      ∀ n, (((s.attempt change answer).within limit).2.fates n).Hopeless := by
  have hfate := h s.called
  simp only [attempt]
  cases hf : s.fates s.called with
  | works =>
    rw [hf] at hfate
    exact hfate.elim
  | fails trouble =>
    rw [hf] at hfate
    dsimp only
    rw [Attempt.within_at_once]
    exact ⟨Or.inr ⟨trouble, hfate, rfl⟩, h⟩
  | late after =>
    have hnever : ∀ d : Duration, (none : Option Duration) = some d → limit.nanos < d.nanos := by
      intro d hd
      cases hd
    cases after with
    | none => exact ⟨Or.inl hnever, h⟩
    | some n => cases change <;> exact ⟨Or.inl hnever, h⟩

/-- A tier for which a hopeless fate is laid down for every call fails always. -/
theorem remote_fails (limit : Duration) :
    remote.Fails limit (fun s => ∀ n, (s.fates n).Hopeless) where
  get_fails _ hs := attempt_fails hs ..
  set_fails _ _ _ hs := attempt_fails hs ..
  delete_fails _ hs := attempt_fails hs ..

end Wayward

end Roster.Cache
