import Roster.Proofs.Store.Session

/-!
# What becomes of a unit of work

A unit of work can be committed as long as it is not finished and nobody else has changed the
repository. Versions only grow, so a unit whose version has passed stays overtaken for ever.

* `Session.Tracks` relates the table of every unit that can still be committed to the shared table.
  It speaks only of units whose version is the present one, and versions never come back: that is
  why `Tracks.step` needs no more than what each staged call does.
* `Session.Finished` and `Session.Overtaken` are the units that can be committed no more, and
  `Session.Refused` is what a finished one answers.
-/

namespace Roster.Store.Session

/-! ### What units can be committed to -/

/-- Every unit that is not finished was begun at a version that has been reached, and if it is still
the present version, the shared table and the unit's table are related as `Rel` says. -/
def Tracks (Rel : Nat → Table → Table → Prop) (s : Session) : Prop :=
  ∀ n t, (s.unit n).staged = some t →
    (s.unit n).base ≤ s.repository.version ∧
      ((s.unit n).base = s.repository.version → Rel n s.repository.table t)

theorem tracks_ofRepository (Rel : Nat → Table → Table → Prop) (r : Repository) :
    Tracks Rel (ofRepository r) := by
  intro n t h
  cases h

/-- Finishing a unit, whatever becomes of the repository, leaves the other units tracked as long as
the repository stays or gets a version of its own. -/
theorem Tracks.finish {Rel : Nat → Table → Table → Prop} {s : Session} (h : Tracks Rel s) (n : Nat)
    (base : Nat) {r : Repository} (hr : r = s.repository ∨ r.version = s.repository.version + 1) :
    Tracks Rel { s.withUnit n ⟨base, none⟩ with repository := r } := by
  intro m t hm
  rcases staged_withUnit hm with ⟨-, he⟩ | ⟨-, he⟩
  · have hm' : ((s.withUnit n ⟨base, none⟩).unit m).staged = some t := hm
    rw [he] at hm'
    cases hm'
  · have hm' : ((s.withUnit n ⟨base, none⟩).unit m).staged = some t := hm
    rw [he] at hm'
    obtain ⟨hle, hrel⟩ := h _ _ hm'
    show ((s.withUnit n ⟨base, none⟩).unit m).base ≤ r.version ∧
      (((s.withUnit n ⟨base, none⟩).unit m).base = r.version → Rel m r.table t)
    rw [he]
    rcases hr with rfl | hr
    · exact ⟨hle, hrel⟩
    · exact ⟨by omega, fun hb => by omega⟩

/-- One event carries tracking on: a new unit has the shared table, and a staged call does to the
unit's table what it does to any table. -/
theorem Tracks.step {Rel Rel' : Nat → Table → Table → Prop} {s : Session} (h : Tracks Rel s)
    (e : Event) (new : e = .begin → ∀ t, Rel' s.units.length t t)
    (old : ∀ m, (∀ c, e ≠ .staged m c) → (e = .begin → m < s.units.length) →
      ∀ T t, Rel m T t → Rel' m T t)
    (call : ∀ m c t, e = .staged m c → (s.unit m).staged = some t →
      Rel m s.repository.table t → Rel' m s.repository.table (c.result t)) :
    Tracks Rel' (Session.step e s).2 := by
  cases e with
  | direct c =>
    intro m t hm
    obtain ⟨hle, hrel⟩ := h m t hm
    show (s.unit m).base ≤ (s.repository.run c).2.version ∧
      ((s.unit m).base = (s.repository.run c).2.version → Rel' m (s.repository.run c).2.table t)
    rw [Repository.run_snd]
    split
    · exact ⟨Nat.le_succ_of_le hle, fun hb => absurd hle (by rw [hb]; exact Nat.not_succ_le_self _)⟩
    · exact ⟨hle, fun hb => old m (by simp) (by simp) _ _ (hrel hb)⟩
  | begin =>
    intro m t hm
    rw [unit_begin] at hm ⊢
    split at hm <;> rename_i hlt
    · subst hlt
      cases hm
      rw [if_pos rfl]
      exact ⟨Nat.le_refl _, fun _ => new rfl _⟩
    · rw [if_neg hlt]
      obtain ⟨hle, hrel⟩ := h _ _ hm
      have hm' : m < s.units.length := lt_length_of_staged hm
      exact ⟨hle, fun hb => old m (by simp) (fun _ => hm') _ _ (hrel hb)⟩
  | staged n c =>
    intro m t hm
    have hm' : ((s.withUnit n ((s.unit n).run c).2).unit m).staged = some t := hm
    show ((s.withUnit n ((s.unit n).run c).2).unit m).base ≤ s.repository.version ∧
      (((s.withUnit n ((s.unit n).run c).2).unit m).base = s.repository.version →
        Rel' m s.repository.table t)
    rcases staged_withUnit hm' with ⟨rfl, he⟩ | ⟨hne, he⟩
    · rw [he] at hm' ⊢
      cases hs : (s.unit m).staged with
      | none =>
        rw [UnitOfWork.run_of_finished hs, hs] at hm'
        cases hm'
      | some t₀ =>
        rw [UnitOfWork.run_of_staged hs] at hm' ⊢
        cases hm'
        obtain ⟨hle, hrel⟩ := h _ _ hs
        exact ⟨hle, fun hb => call m c t₀ rfl hs (hrel hb)⟩
    · rw [he] at hm' ⊢
      obtain ⟨hle, hrel⟩ := h _ _ hm'
      exact ⟨hle, fun hb => old m (by simp [Ne.symm hne]) (by simp) _ _ (hrel hb)⟩
  | commit n =>
    have hrel : Tracks Rel' s := fun m t hm =>
      ⟨(h m t hm).1, fun hb => old m (by simp) (by simp) _ _ ((h m t hm).2 hb)⟩
    show Tracks Rel' { s.withUnit n ((s.unit n).commit s.repository).2.1 with
      repository := ((s.unit n).commit s.repository).2.2 }
    rw [UnitOfWork.commit_unit]
    have hr := repository_step (.commit n) s
    split at hr
    · exact hrel.finish n _ (Or.inr hr)
    · exact hrel.finish n _ (Or.inl hr)
  | rollback n =>
    have hrel : Tracks Rel' s := fun m t hm =>
      ⟨(h m t hm).1, fun hb => old m (by simp) (by simp) _ _ ((h m t hm).2 hb)⟩
    exact hrel.finish n _ (Or.inl rfl)

/-! ### Units that can be committed no more -/

/-- A unit that was committed or rolled back. -/
def Finished (n : Nat) (s : Session) : Prop := n < s.units.length ∧ (s.unit n).staged = none

/-- A unit that was begun at an earlier version. -/
def Overtaken (n : Nat) (s : Session) : Prop :=
  n < s.units.length ∧ (s.unit n).base < s.repository.version

theorem length_le_step (e : Event) (s : Session) :
    s.units.length ≤ (step e s).2.units.length := by
  cases e with
  | begin =>
    show _ ≤ (s.units ++ [_]).length
    rw [List.length_append]
    exact Nat.le_add_right _ _
  | _ => simp [step, withUnit]

/-- An event leaves the units alone that it does not concern. -/
theorem unit_step_of_not_concerns {e : Event} {s : Session} {n : Nat}
    (hn : e = .begin → n < s.units.length) (h : e.concerns n = false) :
    (step e s).2.unit n = s.unit n := by
  cases e with
  | direct c => rfl
  | begin => rw [unit_begin, if_neg (Nat.ne_of_lt (hn rfl))]
  | staged m c => exact unit_withUnit_of_ne s (fun he => by simp [Event.concerns, he] at h) _
  | commit m => exact unit_withUnit_of_ne s (fun he => by simp [Event.concerns, he] at h) _
  | rollback m => exact unit_withUnit_of_ne s (fun he => by simp [Event.concerns, he] at h) _

theorem withUnit_unit (s : Session) (n : Nat) : s.withUnit n (s.unit n) = s := by
  rcases Nat.lt_or_ge n s.units.length with h | h
  · simp only [withUnit, unit]
    rw [List.getElem?_eq_getElem h, Option.getD_some, List.set_getElem_self]
  · simp only [withUnit]
    rw [List.set_eq_of_length_le h]

/-- What a finished unit answers: no more calls and no commit, but any rollback. -/
def Refused : (e : Event) → e.Reply → Prop
  | .staged _ _, reply => reply = .error Store.finished
  | .commit _, reply => reply = .error Store.finished
  | .rollback _, reply => reply = .ok ()
  | _, _ => False

/-- A finished unit refuses what concerns it, and nothing changes. -/
theorem Finished.refused {e : Event} {s : Session} {n : Nat} (h : Finished n s)
    (he : e.concerns n = true) : Refused e (step e s).1 ∧ (step e s).2 = s := by
  obtain ⟨-, hs⟩ := h
  cases e with
  | direct c => cases he
  | begin => cases he
  | staged m c =>
    have hm : m = n := by simpa [Event.concerns] using he
    subst hm
    simp only [step, UnitOfWork.run_of_finished hs, Refused, withUnit_unit, and_self]
  | commit m =>
    have hm : m = n := by simpa [Event.concerns] using he
    subst hm
    simp only [step, UnitOfWork.commit_of_finished hs, Refused, withUnit_unit, and_self]
  | rollback m =>
    have hm : m = n := by simpa [Event.concerns] using he
    subst hm
    have hw : (s.unit m).rollback = s.unit m := by
      show ({ s.unit m with staged := none } : UnitOfWork) = _
      rw [← hs]
    simp only [step, hw, Refused, withUnit_unit, and_self]

theorem Finished.step {s : Session} {n : Nat} (h : Finished n s) (e : Event) :
    Finished n (Session.step e s).2 := by
  cases he : e.concerns n with
  | true => rw [(h.refused he).2]; exact h
  | false =>
    refine ⟨Nat.lt_of_lt_of_le h.1 (length_le_step e s), ?_⟩
    rw [unit_step_of_not_concerns (fun _ => h.1) he]
    exact h.2

theorem unit_step_of_ends {e : Event} {s : Session} {n : Nat} (hn : n < s.units.length)
    (he : e.ends n = true) : (step e s).2.unit n = (s.unit n).rollback := by
  cases e with
  | direct c => cases he
  | begin => cases he
  | staged m c => cases he
  | commit m =>
    have hm : m = n := by simpa [Event.ends] using he
    subst hm
    rw [← UnitOfWork.commit_unit (s.unit m) s.repository]
    exact unit_withUnit_self hn _
  | rollback m =>
    have hm : m = n := by simpa [Event.ends] using he
    subst hm
    exact unit_withUnit_self hn _

/-- A commit and a rollback finish a unit, whatever they answer. -/
theorem finished_of_ends {e : Event} {s : Session} {n : Nat} (hn : n < s.units.length)
    (he : e.ends n = true) : Finished n (step e s).2 := by
  refine ⟨Nat.lt_of_lt_of_le hn (length_le_step e s), ?_⟩
  rw [unit_step_of_ends hn he]
  rfl

theorem base_step {s : Session} {n : Nat} (hn : n < s.units.length) (e : Event) :
    ((step e s).2.unit n).base = (s.unit n).base := by
  cases hc : e.concerns n with
  | false => rw [unit_step_of_not_concerns (fun _ => hn) hc]
  | true =>
    cases he : e.ends n with
    | true => rw [unit_step_of_ends hn he]; rfl
    | false =>
      obtain ⟨c, rfl⟩ := Event.eq_staged hc he
      show ((s.withUnit n _).unit n).base = _
      rw [unit_withUnit_self hn]
      cases hs : (s.unit n).staged with
      | none => rw [UnitOfWork.run_of_finished hs]
      | some t => rw [UnitOfWork.run_of_staged hs]

theorem Overtaken.step {s : Session} {n : Nat} (h : Overtaken n s) (e : Event) :
    Overtaken n (Session.step e s).2 := by
  refine ⟨Nat.lt_of_lt_of_le h.1 (length_le_step e s), ?_⟩
  rw [base_step h.1]
  exact Nat.lt_of_lt_of_le h.2 (version_le_step e s)

/-- An overtaken unit is never committed. -/
theorem Overtaken.commit_not_ok {s : Session} {n : Nat} (h : Overtaken n s) (events : List Event) :
    (⟨.commit n, .ok ()⟩ : (e : Event) × e.Reply) ∉ log events s := by
  induction events generalizing s with
  | nil => exact List.not_mem_nil
  | cons e events ih =>
    refine fun hm => ?_
    rcases List.mem_cons.1 hm with he | hm
    · obtain ⟨rfl, hreply⟩ := Sigma.mk.inj he
      obtain ⟨t, -, hv, -⟩ := UnitOfWork.commit_eq_ok (eq_of_heq hreply).symm
      exact Nat.ne_of_lt h.2 hv.symm
    · exact ih (h.step e) hm

end Roster.Store.Session
