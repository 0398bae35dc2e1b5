import Roster.Proofs.Cache.Recalled
import Roster.Proofs.Service.Transparency

/-!
# Listings are never out of date

Nothing removes the pages of earlier generations, and a remote tier may bring any of them back at any
time. But a listing only asks for pages of the present generation, and between two moments of one
generation nothing has changed, unless the generations started again in between.

* `TakenIn` is a page that was taken in a run, and `listing_taken` says that a listing is answered with
  one that was taken in the present generation.
* `listings_never_stale` is about runs of operations in front of a remote tier that may do everything
  but make values up.
-/

namespace Roster.Service

open Roster.Cache Roster.Number Roster.Store

variable {α ρ : Type}

/-! ### Runs of operations -/

theorem renewals_operations (ops : List Operation) (w : World Repository) :
    renewals (Program.answers (base tableBacking).answer
        (ops.map Request.operation : List (Request α)) w) =
      changes (Program.answers (base tableBacking).run ops w) := by
  induction ops generalizing w with
  | nil => rfl
  | cons op ops ih =>
    have hrest := ih ((base tableBacking).run op w).2
    simp only [renewals, changes] at hrest ⊢
    rw [List.map_cons, Program.answers, Program.answers, List.countP_cons, List.countP_cons]
    show List.countP _ (Program.answers _ _ ((base tableBacking).run op w).2) + _ = _
    rw [hrest]
    rfl

theorem changes_append (before since : List Operation) (w : World Repository) :
    changes (Program.answers (base tableBacking).run (before ++ since) w) =
      changes (Program.answers (base tableBacking).run before w) +
        changes (Program.answers (base tableBacking).run since
          (Program.after (base tableBacking).run before w)) := by
  simp only [changes]
  rw [Program.answers_append, List.countP_append]

/-- Generations are counted from the first one by the changes. -/
theorem generation_after_operations (cache : Layered ρ) (ops : List Operation) (w : World Repository)
    (t : Tiers ρ) : (Program.after (fronted cache).run ops ⟨w, .first, t⟩).generation.current =
      wrapped (changes (Program.answers (base tableBacking).run ops w)) := by
  have hcount := generation_after cache (ops.map Request.operation : List (Request Unit))
    (s := ⟨w, .first, t⟩) (Nat.zero_le _)
  rw [after_operations, renewals_operations] at hcount
  rw [hcount]
  exact congrArg wrapped (Nat.zero_add _)

/-- Two moments of a run are in one generation if the changes between them are a multiple of the number
of all generations. -/
theorem dvd_changes {before since : List Operation} {w : World Repository}
    (h : wrapped (changes (Program.answers (base tableBacking).run (before ++ since) w)) =
      wrapped (changes (Program.answers (base tableBacking).run before w))) :
    wordMax + 1 ∣ changes (Program.answers (base tableBacking).run since
      (Program.after (base tableBacking).run before w)) := by
  rw [changes_append] at h
  refine Nat.dvd_of_mod_eq_zero ?_
  simp only [wrapped, wordMax] at h ⊢
  omega

/-- A run without changes leaves the repository as it was. -/
theorem store_after_of_no_changes {ops : List Operation} {w : World Repository}
    (h : changes (Program.answers (base tableBacking).run ops w) = 0) :
    (Program.after (base tableBacking).run ops w).store = w.store := by
  induction ops generalizing w with
  | nil => rfl
  | cons op ops ih =>
    simp only [changes] at h ih
    rw [Program.answers, List.countP_cons] at h
    have hop : op.changed ((base tableBacking).run op w).1 = false := by
      cases hc : op.changed ((base tableBacking).run op w).1 with
      | false => rfl
      | true => simp [hc] at h
    have hrest := ih (Nat.le_zero.1 (h ▸ Nat.le_add_right _ _))
    rw [base_unchanged hop] at hrest
    exact hrest

/-- The page was taken at a moment of a run in which the generation had this number. -/
def TakenIn (ops : List Operation) (w : World Repository) (g : Nat) (r : PageRequest)
    (p : Page User) : Prop :=
  ∃ before since, ops = before ++ since ∧
    g = wrapped (changes (Program.answers (base tableBacking).run before w)) ∧
    p = (Program.after (base tableBacking).run before w).store.table.page r

section Run

variable {cache : Layered ρ} {may : ρ → Prop} {sent : ρ → String → ByteArray → Prop}
  (h : cache.Recalls may sent) {w : World Repository} (hsound : w.store.table.Sound) {t : Tiers ρ}
  (hfar : may t.far) (hbare : Bare (cache.Known sent) t)

include h hsound hfar hbare

theorem dated_after_operations (ops : List Operation) :
    Dated (cache.Known sent) (TakenIn ops w)
      (Program.after (fronted cache).run ops ⟨w, .first, t⟩).tiers := by
  have hdated := (hbare.dated (TakenIn ops w)).after h.traced (s := ⟨w, .first, t⟩) ⟨hfar, hsound⟩
    (ops.map Request.operation : List (Request Unit)) (by
      intro before since heq r
      obtain ⟨before, since, rfl, rfl, rfl⟩ := List.map_eq_append_iff.1 heq
      rw [after_operations, CachedState.page, after_behind]
      exact ⟨before, since, rfl, generation_after_operations cache before w t, rfl⟩)
  rwa [after_operations] at hdated

/-- Every listing is answered with a page that was taken in a generation of the present number. -/
theorem listing_taken (ops : List Operation) (r : PageRequest) :
    ∃ p, ((fronted cache).run (.list r) (Program.after (fronted cache).run ops ⟨w, .first, t⟩)).1 =
        .ok p ∧
      TakenIn ops w (wrapped (changes (Program.answers (base tableBacking).run ops w))) r p := by
  have hdated := dated_after_operations h hsound hfar hbare ops
  have hknown := known_after h.traced.toTracked (s := ⟨w, .first, t⟩) ⟨hfar, hsound⟩
    (ops.map Request.operation : List (Request Unit))
  rw [after_operations] at hknown
  have hgeneration := generation_after_operations cache ops w t
  rw [← hgeneration]
  refine hdated.listing h.traced hknown.1 ?_
  rw [hgeneration, CachedState.page, after_behind]
  exact ⟨ops, [], (List.append_nil ops).symm, rfl, rfl⟩

end Run

/-- Behind a remote tier that makes nothing up, whether its calls succeed or fail and whenever they
take effect, every listing is answered as by the service alone at some moment since which the number
of changes is a multiple of `2 ^ 64`: at the present moment, in a run with fewer changes than there are
generations. -/
theorem listings_never_stale {cache : Layered ρ} {may : ρ → Prop}
    {sent : ρ → String → ByteArray → Prop} (h : cache.Recalls may sent) {w : World Repository}
    (hsound : w.store.table.Sound) {t : Tiers ρ} (hfar : may t.far) (hbare : Bare (cache.Known sent) t)
    (ops : List Operation) (r : PageRequest) :
    (∃ before since, ops = before ++ since ∧
        wordMax + 1 ∣ changes (Program.answers (base tableBacking).run since
          (Program.after (base tableBacking).run before w)) ∧
        ((fronted cache).run (.list r) (Program.after (fronted cache).run ops ⟨w, .first, t⟩)).1 =
          ((base tableBacking).run (.list r) (Program.after (base tableBacking).run before w)).1) ∧
      (changes (Program.answers (base tableBacking).run ops w) ≤ wordMax →
        ((fronted cache).run (.list r) (Program.after (fronted cache).run ops ⟨w, .first, t⟩)).1 =
          ((base tableBacking).run (.list r) (Program.after (base tableBacking).run ops w)).1) := by
  obtain ⟨p, hanswer, before, since, rfl, hsame, rfl⟩ := listing_taken h hsound hfar hbare ops r
  have hdvd := dvd_changes hsame
  refine ⟨⟨before, since, rfl, hdvd, hanswer⟩, ?_⟩
  intro hfew
  rw [changes_append] at hfew
  have hnone : changes (Program.answers (base tableBacking).run since
      (Program.after (base tableBacking).run before w)) = 0 := by
    refine Nat.eq_zero_of_dvd_of_lt hdvd ?_
    omega
  rw [hanswer, base_list, Program.after_append, store_after_of_no_changes hnone]

/-- Fates for a trial: the first page that is cached arrives late, and the deletions that follow fail
or are lost. -/
def trialFates : Nat → Fate
  | 2 => .late (some 3)
  | 3 => .fails (.unavailable "no route")
  | 7 => .late none
  | _ => .works

theorem listings_never_stale_in_trial :
    ((fronted (Wayward.layered ⟨0⟩ ⟨0⟩)).run (.list .first)
        (Program.after (fronted (Wayward.layered ⟨0⟩ ⟨0⟩)).run trialRun
          ⟨⟨.empty, .still⟩, .first, Layered.start (.ofSizing ⟨10, 1000, 1⟩) (.ofFates trialFates)⟩)).1 =
      ((base tableBacking).run (.list .first)
        (Program.after (base tableBacking).run trialRun ⟨.empty, .still⟩)).1 := by
  have hbare : Bare ((Wayward.layered ⟨0⟩ ⟨0⟩).Known Wayward.sent)
      (Layered.start (.ofSizing ⟨10, 1000, 1⟩) (.ofFates trialFates)) := by
    refine ⟨fun hh => ?_⟩
    exact absurd hh (Layered.not_known_start rfl (Wayward.not_sent_ofFates trialFates) _ _)
  refine (listings_never_stale (Wayward.layered_recalls ⟨0⟩ ⟨0⟩) Table.sound_nil trivial hbare
    trialRun .first).2 ?_
  exact Nat.le_trans List.countP_le_length (by decide)

end Roster.Service
