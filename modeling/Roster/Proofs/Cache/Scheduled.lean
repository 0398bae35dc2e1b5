import Roster.Proofs.Cache.Tiers

/-!
# A remote tier that fails now and then

A simulated tier whose behaviour is laid down call by call, so that each call on its own acts as on a
map or fails in one of the ways in which a tier can fail.

* `Scheduled` is the tier, `Scheduled.tier` its calls.
* `Simulated.keeps` and `Scheduled.keeps` say that no call has half an effect, and that nothing that
  was not set is ever found.
-/

namespace Roster.Cache

open Roster.Time

/-! ### One call -/

/-- A call on a simulated tier acts as on a map, or fails and has no effect, unless the tier is made to
be always empty. -/
theorem Simulated.attempt_within_cases {α : Type} {s : Simulated} (hs : s.behaviour ≠ .empty)
    (limit : Duration) (asMap : Except Trouble α × Simulated) (asEmpty : Except Trouble α) :
    (s.attempt asMap asEmpty).within limit = asMap ∨
      ∃ e, (s.attempt asMap asEmpty).within limit = (.error e, s) := by
  simp only [Simulated.attempt]
  cases hb : s.behaviour with
  | map => exact Or.inl (Attempt.within_at_once limit ..)
  | empty => exact absurd hb hs
  | down => exact Or.inr ⟨_, Attempt.within_at_once limit ..⟩
  | garbled => exact Or.inr ⟨_, Attempt.within_at_once limit ..⟩
  | silent => exact Or.inr ⟨.timeout limit, rfl⟩
  | slow delay =>
    show (if delay.nanos ≤ limit.nanos then asMap else (.error (.timeout limit), s)) = asMap ∨
      ∃ e, (if delay.nanos ≤ limit.nanos then asMap else (.error (.timeout limit), s)) = (.error e, s)
    by_cases hd : delay.nanos ≤ limit.nanos
    · rw [if_pos hd]
      exact Or.inl rfl
    · rw [if_neg hd]
      exact Or.inr ⟨_, rfl⟩

section Calls

variable {s : Simulated} (hs : s.behaviour ≠ .empty) (limit : Duration)

include hs

theorem Simulated.get_cases (key : String) :
    (Simulated.tier.within limit).get key s = (s.lookUp key, s.note (.get key)) ∨
      ∃ e, (Simulated.tier.within limit).get key s = (.error e, s.note (.get key)) :=
  Simulated.attempt_within_cases (s := s.note (.get key)) hs limit _ _

theorem Simulated.set_cases (key : String) (value : ByteArray) (ttl : Duration) :
    (Simulated.tier.within limit).set key value ttl s = (.ok (),
        { s.note (.set key value.size ttl) with entries := Keyed.put s.entries key value }) ∨
      ∃ e, (Simulated.tier.within limit).set key value ttl s =
        (.error e, s.note (.set key value.size ttl)) :=
  Simulated.attempt_within_cases (s := s.note (.set key value.size ttl)) hs limit _ _

theorem Simulated.delete_cases (key : String) :
    (Simulated.tier.within limit).delete key s =
        (.ok (), { s.note (.delete key) with entries := Keyed.erase s.entries key }) ∨
      ∃ e, (Simulated.tier.within limit).delete key s = (.error e, s.note (.delete key)) :=
  Simulated.attempt_within_cases (s := s.note (.delete key)) hs limit _ _

end Calls

/-- A simulated tier keeps what it is given, whatever else it fails to do. -/
theorem Simulated.keeps (limit : Duration) :
    (Simulated.tier.within limit).Keeps (fun s => s.behaviour ≠ .empty) Simulated.view where
  get_ok {s key value} hs hg := by
    rcases Simulated.get_cases hs limit key with he | ⟨e, he⟩
    · rw [he] at hg
      exact Simulated.view_of_lookUp hg
    · rw [he] at hg
      cases hg
  get_far key hs := by
    rcases Simulated.get_cases hs limit key with he | ⟨e, he⟩
    · rw [he]
      exact ⟨hs, rfl⟩
    · rw [he]
      exact ⟨hs, rfl⟩
  set_far key value ttl hs := by
    rcases Simulated.set_cases hs limit key value ttl with he | ⟨e, he⟩
    · rw [he]
      exact ⟨hs, Or.inl ⟨rfl, fun k => Keyed.get?_put _ key k value⟩⟩
    · rw [he]
      exact ⟨hs, Or.inr ⟨⟨e, rfl⟩, rfl⟩⟩
  delete_far key hs := by
    rcases Simulated.delete_cases hs limit key with he | ⟨e, he⟩
    · rw [he]
      exact ⟨hs, Or.inl ⟨rfl, fun k => Keyed.get?_erase _ key k⟩⟩
    · rw [he]
      exact ⟨hs, Or.inr ⟨⟨e, rfl⟩, rfl⟩⟩

/-! ### Call by call -/

/-- A simulated tier with its behaviour for the calls to come. Once that is at an end, it behaves as a
map. -/
structure Scheduled where
  behaviours : List Behaviour
  tier : Simulated

namespace Scheduled

/-- The tier as it behaves for the next call. -/
def next (s : Scheduled) : Simulated := { s.tier with behaviour := s.behaviours.headD .map }

/-- A call on the tier, after which the next behaviour is due. -/
def lift {α : Type} (s : Scheduled) (a : Attempt Simulated α) : Attempt Scheduled α :=
  ⟨a.delay, ⟨s.behaviours.tail, a.started⟩, a.answer, ⟨s.behaviours.tail, a.ended⟩⟩

/-- The tier whose behaviour is laid down. -/
def remote : Slow Scheduled where
  get key s := s.lift (Simulated.tier.get key s.next)
  set key value ttl s := s.lift (Simulated.tier.set key value ttl s.next)
  delete key s := s.lift (Simulated.tier.delete key s.next)

/-- What the tier holds. -/
def view (s : Scheduled) : String → Option ByteArray := s.tier.view

/-- No behaviour to come is that of a tier that is always empty. -/
def Fails (s : Scheduled) : Prop := ∀ b ∈ s.behaviours, b ≠ .empty

theorem within_lift {α : Type} (s : Scheduled) (a : Attempt Simulated α) (limit : Duration) :
    (s.lift a).within limit = ((a.within limit).1, ⟨s.behaviours.tail, (a.within limit).2⟩) := by
  simp only [lift, Attempt.within]
  cases a.delay with
  | none => rfl
  | some d =>
    dsimp only
    split <;> rfl

theorem Fails.next {s : Scheduled} (h : s.Fails) : s.next.behaviour ≠ .empty := by
  obtain ⟨behaviours, tier⟩ := s
  cases behaviours with
  | nil => exact fun he => by cases he
  | cons b bs => exact h b (List.mem_cons_self ..)

theorem Fails.tail {s : Scheduled} (h : s.Fails) (t : Simulated) :
    Fails ⟨s.behaviours.tail, t⟩ := fun b hb => h b (List.mem_of_mem_tail hb)

/-- Whatever is laid down, the tier keeps what it is given. -/
theorem keeps (limit : Duration) : (remote.within limit).Keeps Fails view where
  get_ok {s key value} hs hg := by
    have hcall : (remote.within limit).get key s = _ := within_lift s _ limit
    rw [hcall] at hg
    exact (Simulated.keeps limit).get_ok (s := s.next) hs.next hg
  get_far {s} key hs := by
    have hcall : (remote.within limit).get key s = _ := within_lift s _ limit
    rw [hcall]
    exact ⟨hs.tail _, ((Simulated.keeps limit).get_far key hs.next).2⟩
  set_far {s} key value ttl hs := by
    have hcall : (remote.within limit).set key value ttl s = _ := within_lift s _ limit
    rw [hcall]
    exact ⟨hs.tail _, ((Simulated.keeps limit).set_far key value ttl hs.next).2⟩
  delete_far {s} key hs := by
    have hcall : (remote.within limit).delete key s = _ := within_lift s _ limit
    rw [hcall]
    exact ⟨hs.tail _, ((Simulated.keeps limit).delete_far key hs.next).2⟩

/-- A cache in front of the tier. -/
def layered (ttl timeout : Duration) : Layered Scheduled := ⟨some remote, ttl, timeout⟩

theorem layered_keeps (ttl timeout : Duration) : (layered ttl timeout).Keeps Fails view := by
  intro r hr
  rw [← Option.some.inj hr]
  exact keeps timeout

end Scheduled

end Roster.Cache
