import Mathlib.Data.List.Induction
import Roster.Proofs.Cache.Scheduled
import Roster.Proofs.Service.Transparency

/-!
# Reads after writes when the remote tier fails

A change of a user removes the copy in the local tier, and asks the remote tier to do the same. If the
remote tier fails then, it keeps the old copy, and a later lookup that gets past the local tier brings
it back.

* `Current` is the invariant for the local tier: it breaks only where a user is read wrongly.
  `far_before` says that no operation brings an old copy into the remote tier.
* `Outlives` is a copy in the remote tier that was there before a change of the user and has been there
  ever since, and `Resurfaces` a lookup that finds it.
* `reads_follow_writes_iff` says that this is the only way in which a user can be read wrongly.
-/

namespace Roster.Service

open Roster.Cache Roster.Store Roster.Time

variable {ρ : Type}

/-- The state after operations on it. -/
abbrev afterwards (cache : Layered ρ) (ops : List Operation) (s : Fronted ρ) : Fronted ρ :=
  Program.after (fronted cache).run ops s

/-- After the operations a user is read as by the service alone after the same operations. -/
def ReadsRight (cache : Layered ρ) (id : UserId) (ops : List Operation) (s : Fronted ρ) : Prop :=
  ((fronted cache).run (.get id) (afterwards cache ops s)).1 =
    ((base tableBacking).run (.get id) (Program.after (base tableBacking).run ops s.behind)).1

/-- In a run the remote tier has held the same bytes for a user since before a change of the user, and
they are the user as it was then. -/
def Outlives (cache : Layered ρ) (view : ρ → String → Option ByteArray) (id : UserId)
    (bytes : ByteArray) (ops : List Operation) (s : Fronted ρ) : Prop :=
  ∃ before change since u, ops = before ++ change :: since ∧
    (change = .delete id ∨ ∃ r, change = .update id r) ∧
    (afterwards cache before s).live id = some u ∧ decodeUser? bytes = some u ∧
    (afterwards cache (before ++ [change]) s).live id ≠ some u ∧
    ∀ done rest, change :: since = done ++ rest →
      cache.far? view (afterwards cache (before ++ done) s).tiers (userKey id) = some bytes

/-- A lookup finds nothing in the local tier, and in the remote tier a copy that outlives a change of
the user. -/
def Resurfaces (cache : Layered ρ) (view : ρ → String → Option ByteArray) (id : UserId)
    (ops : List Operation) (s : Fronted ρ) : Prop :=
  (afterwards cache ops s).tiers.near.find? (userKey id) = none ∧
    ∃ bytes u, cache.farAnswer? (userKey id) (afterwards cache ops s).tiers.far = some bytes ∧
      decodeUser? bytes = some u ∧ (afterwards cache ops s).live id ≠ some u ∧
      Outlives cache view id bytes ops s

section Step

variable {cache : Layered ρ} {may : ρ → Prop} {view : ρ → String → Option ByteArray}
  {s : Fronted ρ} {id : UserId}

/-! ### One lookup -/

/-- What the local tier holds of a user is the live user. -/
def Current (id : UserId) (s : Fronted ρ) : Prop :=
  ∀ bytes u, s.tiers.near.find? (userKey id) = some bytes → decodeUser? bytes = some u →
    s.live id = some u

/-- While the local tier is current, a user is read wrongly only from the remote tier. -/
theorem Current.get_right_iff (hc : Current id s) : ((fronted cache).run (.get id) s).1 =
      ((base tableBacking).run (.get id) s.behind).1 ↔
    ¬ (s.tiers.near.find? (userKey id) = none ∧
      ∃ bytes u, cache.farAnswer? (userKey id) s.tiers.far = some bytes ∧
        decodeUser? bytes = some u ∧ s.live id ≠ some u) := by
  rw [Service.get_right_iff, Layered.get_fst]
  constructor
  · rintro h ⟨hnear, bytes, u, hfar, hd, hne⟩
    refine hne (h u ?_)
    rw [hnear, Option.none_or, hfar, Option.bind_some, hd]
  · intro h u hu
    obtain ⟨bytes, hbytes, hd⟩ := Option.bind_eq_some_iff.1 hu
    rcases Option.or_eq_some_iff.1 hbytes with hnear | ⟨hnear, hfar⟩
    · exact hc bytes u hnear hd
    · refine Decidable.byContradiction fun hne => ?_
      exact h ⟨hnear, bytes, u, hfar, hd, hne⟩

section Keeps

variable (h : cache.Keeps may view) (hfar : may s.tiers.far) (hsound : s.behind.store.table.Sound)

include h hfar hsound

/-- The local tier stays current as long as the user is read rightly. -/
theorem Current.step (hc : Current id s) (op : Operation)
    (hright : op = .get id → ((fronted cache).run (.get id) s).1 =
      ((base tableBacking).run (.get id) s.behind).1) :
    Current id ((fronted cache).run op s).2 := by
  intro bytes u hnear hd
  rcases user_copy h.tracked_near hfar hsound hd hnear with
    hlive | ⟨before, same⟩ | ⟨rfl, answer, -, same⟩
  · exact hlive
  · rw [same trivial]
    exact hc bytes u before hd
  · rw [same]
    exact Service.get_right_iff.1 (hright rfl) u (by rw [answer, Option.bind_some, hd])

/-! ### The copy in the remote tier -/

/-- What the remote tier holds of a user after an operation is the live user, or was there before. -/
theorem far_before {op : Operation} {bytes : ByteArray} {u : User}
    (hafter : cache.far? view ((fronted cache).run op s).2.tiers (userKey id) = some bytes)
    (hd : decodeUser? bytes = some u) (hne : ((fronted cache).run op s).2.live id ≠ some u) :
    cache.far? view s.tiers (userKey id) = some bytes := by
  rcases user_copy h.tracked_far hfar hsound hd hafter with hlive | ⟨before, -⟩ | ⟨-, -, lookup, -⟩
  · exact absurd hlive hne
  · exact before
  · rw [← lookup, (Layered.far_get h hfar _).2]

omit h hfar in
/-- A live user is replaced by updates and deletions under its id only. -/
theorem replaced_by {op : Operation} {u : User} (hlive : s.live id = some u)
    (hne : ((fronted cache).run op s).2.live id ≠ some u) :
    op = .delete id ∨ ∃ r, op = .update id r := by
  have hchanged : op.changed ((base tableBacking).run op s.behind).1 = true := by
    refine Decidable.byContradiction fun hc => hne ?_
    rw [live_unchanged cache (Bool.eq_false_iff.2 hc), hlive]
  have hhere : Keyed.get? s.behind.store.table id = some u := (Table.find?_eq_some.1 hlive).1
  -- Otherwise the change has put its record under another id.
  cases op with
  | create r =>
    cases hanswer : ((base tableBacking).run (.create r) s.behind).1 with
    | error e => rw [hanswer] at hchanged; cases hchanged
    | ok v =>
      obtain ⟨-, hfree, hstore⟩ := base_create_ok hanswer
      have hother : v.id ≠ id := by
        intro he
        rw [he, hhere] at hfree
        cases hfree
      rw [live_put cache hstore, if_neg hother] at hne
      exact absurd hlive hne
  | get other =>
    cases hanswer : ((base tableBacking).run (.get other) s.behind).1 with
    | error e => rw [hanswer] at hchanged; cases hchanged
    | ok v => rw [hanswer] at hchanged; cases hchanged
  | update other r =>
    cases hanswer : ((base tableBacking).run (.update other r) s.behind).1 with
    | error e => rw [hanswer] at hchanged; cases hchanged
    | ok v =>
      obtain ⟨w, hw, hid, -, hstore⟩ := base_update_ok hanswer
      have hwid : w.id = other := hsound.id_eq (Table.find?_eq_some.1 hw).1
      by_cases he : other = id
      · exact Or.inr ⟨r, by rw [he]⟩
      · rw [live_put cache hstore, if_neg (by rw [hid, hwid]; exact he)] at hne
        exact absurd hlive hne
  | delete other =>
    cases hanswer : ((base tableBacking).run (.delete other) s.behind).1 with
    | error e => rw [hanswer] at hchanged; cases hchanged
    | ok done =>
      obtain ⟨v, now, -, hstore⟩ := base_delete_ok hanswer
      by_cases he : other = id
      · exact Or.inl (by rw [he])
      · rw [live_put cache hstore, if_neg he] at hne
        exact absurd hlive hne
  | list r => cases hchanged

/-! ### Runs -/

omit hfar hsound in
/-- What every operation keeps of the state holds after any number of them. -/
theorem known_afterwards (hknown : may s.tiers.far ∧ s.behind.store.table.Sound)
    (ops : List Operation) : may (afterwards cache ops s).tiers.far ∧
      (afterwards cache ops s).behind.store.table.Sound := by
  have hafter := known_after h.tracked_near hknown (ops.map Request.operation : List (Request Unit))
  rwa [after_operations] at hafter

/-- A copy in the remote tier that is not the live user was there from the start, or outlives a change
of the user. -/
theorem outlives_or_lasts {bytes : ByteArray} {u : User} (hd : decodeUser? bytes = some u)
    (ops : List Operation)
    (hheld : cache.far? view (afterwards cache ops s).tiers (userKey id) = some bytes)
    (hne : (afterwards cache ops s).live id ≠ some u) :
    Outlives cache view id bytes ops s ∨ s.live id ≠ some u ∧ ∀ done rest, ops = done ++ rest →
      cache.far? view (afterwards cache done s).tiers (userKey id) = some bytes := by
  induction ops generalizing s with
  | nil =>
    refine Or.inr ⟨hne, fun done rest heq => ?_⟩
    obtain ⟨rfl, -⟩ := List.append_eq_nil_iff.1 heq.symm
    exact hheld
  | cons op ops ih =>
    have hknown := known_afterwards h ⟨hfar, hsound⟩ [op]
    rcases ih hknown.1 hknown.2 hheld hne with
      ⟨before, change, since, v, rfl, hchange⟩ | ⟨hne', hlasts⟩
    · exact Or.inl ⟨op :: before, change, since, v, rfl, hchange⟩
    · have hbefore := far_before h hfar hsound (hlasts [] ops rfl) hd hne'
      have hlasts' : ∀ done rest, op :: ops = done ++ rest →
          cache.far? view (afterwards cache done s).tiers (userKey id) = some bytes := by
        intro done rest heq
        cases done with
        | nil => exact hbefore
        | cons first done =>
          obtain ⟨rfl, heq'⟩ := List.cons.inj heq
          exact hlasts done rest heq'
      by_cases hlive : s.live id = some u
      · exact Or.inl ⟨[], op, ops, u, rfl, replaced_by hsound hlive hne', hlive, hd, hne', hlasts'⟩
      · exact Or.inr ⟨hlive, hlasts'⟩

/-- In the state after operations, a user is read rightly by a cache whose local tier is current, unless
an old copy resurfaces. -/
theorem reads_right_of_current {ops : List Operation} (hcold : Cold cache view s.tiers)
    (hc : Current id (afterwards cache ops s)) (hno : ¬ Resurfaces cache view id ops s) :
    ReadsRight cache id ops s := by
  have hknown := known_afterwards h ⟨hfar, hsound⟩ ops
  simp only [ReadsRight]
  rw [← after_behind cache ops s]
  refine hc.get_right_iff.2 ?_
  rintro ⟨hnear, bytes, u, hanswer, hd, hne⟩
  have hheld := Layered.far?_of_farAnswer? h hknown.1 hanswer
  rcases outlives_or_lasts h hfar hsound hd ops hheld hne with hout | ⟨-, hlasts⟩
  · exact hno ⟨hnear, bytes, u, hanswer, hd, hne, hout⟩
  · have hstart := hcold.no_user (Or.inr (hlasts [] ops rfl))
    rw [hd] at hstart
    cases hstart

/-- The local tier is current as long as no old copy has resurfaced. -/
theorem current_afterwards (hcold : Cold cache view s.tiers) (ops : List Operation)
    (hno : ∀ before rest, ops = before ++ .get id :: rest → ¬ Resurfaces cache view id before s) :
    Current id (afterwards cache ops s) := by
  induction ops using List.reverseRecOn with
  | nil =>
    intro bytes u hnear hd
    rw [hcold.no_user (Or.inl hnear)] at hd
    cases hd
  | append_singleton ops op ih =>
    have hc := ih fun before rest heq => hno before (rest ++ [op]) (by rw [heq]; simp)
    have hknown := known_afterwards h ⟨hfar, hsound⟩ ops
    simp only [afterwards] at hc hknown ⊢
    rw [Program.after_append]
    refine hc.step h hknown.1 hknown.2 op ?_
    rintro rfl
    have hright := reads_right_of_current h hfar hsound hcold hc (hno ops [] rfl)
    simp only [ReadsRight] at hright
    rw [← after_behind cache ops s] at hright
    exact hright

end Keeps

end Step

/-- If each call on the remote tier acts as on a map or fails without effect, a user is read as the
service alone would read it, at every point of a run, if and only if at none of these points a lookup
gets past the local tier to an old copy that outlived a change of the user in the remote tier. -/
theorem reads_follow_writes_iff {cache : Layered ρ} {may : ρ → Prop}
    {view : ρ → String → Option ByteArray} (h : cache.Keeps may view) {s : Fronted ρ}
    (hfar : may s.tiers.far) (hsound : s.behind.store.table.Sound) (hcold : Cold cache view s.tiers)
    (id : UserId) (ops : List Operation) :
    (∀ before rest, ops = before ++ .get id :: rest → ReadsRight cache id before s) ↔
      ∀ before rest, ops = before ++ .get id :: rest → ¬ Resurfaces cache view id before s := by
  constructor
  · rintro hright before rest heq ⟨hnear, bytes, u, hanswer, hd, hne, -⟩
    have hget := hright before rest heq
    simp only [ReadsRight] at hget
    rw [← after_behind cache before s, get_right_iff] at hget
    refine hne (hget u ?_)
    rw [Layered.get_fst, hnear, Option.none_or, hanswer, Option.bind_some, hd]
  · intro hno before rest heq
    refine reads_right_of_current h hfar hsound hcold ?_ (hno before rest heq)
    refine current_afterwards h hfar hsound hcold before ?_
    intro first second heq'
    exact hno first (second ++ .get id :: rest) (by rw [heq, heq']; simp)

/-! ### A copy that resurfaces -/

/-- The only user of the trial. -/
def trialId : UserId := .inSeries 0

/-- The trial: a fresh cache in front of a fresh repository. The remote tier works at the first call,
fails at the second one and works again at the third. -/
def trialState : Fronted Scheduled :=
  ⟨⟨.empty, .still⟩, .first, Layered.start (.ofSizing ⟨1000000, 1000, 1⟩)
    ⟨[.map, .down, .map], .ofBehaviour .map⟩⟩

theorem trialState_fails : trialState.tiers.far.Fails := by
  show ∀ b ∈ [Behaviour.map, .down, .map], b ≠ .empty
  decide

theorem trialState_cold (ttl timeout : Duration) :
    Cold (Scheduled.layered ttl timeout) Scheduled.view trialState.tiers :=
  Cold.of_empty rfl fun _ => rfl

theorem reads_follow_writes_iff_in_trial :
    (∀ before rest, [.create ⟨"Jane", "jane@example.org"⟩, .delete trialId, .get trialId] =
        before ++ .get trialId :: rest →
      ReadsRight (Scheduled.layered ⟨0⟩ ⟨0⟩) trialId before trialState) ↔
    ∀ before rest, [.create ⟨"Jane", "jane@example.org"⟩, .delete trialId, .get trialId] =
        before ++ .get trialId :: rest →
      ¬ Resurfaces (Scheduled.layered ⟨0⟩ ⟨0⟩) Scheduled.view trialId before trialState :=
  reads_follow_writes_iff (Scheduled.layered_keeps ⟨0⟩ ⟨0⟩) trialState_fails Table.sound_nil
    (trialState_cold ⟨0⟩ ⟨0⟩) trialId _

/-- After the remote tier has failed at a deletion, the deleted user is read again, although the
service alone would know nobody. -/
theorem deleted_user_read_again :
    ((base tableBacking).run (.get trialId) (Program.after (base tableBacking).run
        [.create ⟨"Jane", "jane@example.org"⟩, .delete trialId] trialState.behind)).1 =
      .error (.noUser trialId) ∧
    ¬ ReadsRight (Scheduled.layered ⟨0⟩ ⟨0⟩) trialId
        [.create ⟨"Jane", "jane@example.org"⟩, .delete trialId] trialState := by
  simp only [ReadsRight]
  decide +kernel

end Roster.Service
