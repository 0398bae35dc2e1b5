import Mathlib.Data.List.Perm.Subperm
import Roster.Proofs.Store.Units

/-!
# What holds in every state of a repository

Started without users, a repository and its units of work stay sound in every interleaving: every row
is under its own id and no two live rows share an address, in the shared table and in every copy. No
row is lost, and a deleted one is there for good.

* `Table.Follows` says that a table came about from another without losing or reviving a row.
* `Session.Every` says that something holds of the shared table and of every copy.
* `Session.Safe` is the invariant. A commit puts a copy in the place of the shared table, so it has to
  know that the copy follows the shared table whenever it can still be committed.
* `Session.version_run` counts the writes.
-/

namespace Roster.Store

/-! ### Tables that follow others -/

/-- Every row of the first table is in the second too, and a deleted one is unchanged. -/
def Table.Follows (t t' : Table) : Prop :=
  ∀ id u, Keyed.get? t id = some u →
    (Keyed.get? t' id).isSome = true ∧ (u.isDeleted = true → Keyed.get? t' id = some u)

namespace Table

theorem Follows.refl (t : Table) : Follows t t := by
  intro id u hu
  rw [hu]
  exact ⟨rfl, fun _ => rfl⟩

theorem Follows.trans {t t' t'' : Table} (h : Follows t t') (h' : Follows t' t'') :
    Follows t t'' := by
  intro id u hu
  obtain ⟨hsome, hsame⟩ := h id u hu
  obtain ⟨v, hv⟩ := Option.isSome_iff_exists.1 hsome
  refine ⟨(h' id v hv).1, fun hd => ?_⟩
  exact (h' id u (hsame hd)).2 hd

/-- A table has no fewer rows than one that it follows. -/
theorem Follows.length_le {t t' : Table} (h : Follows t t') (hsound : t.Sound) :
    t.length ≤ t'.length := by
  have hkeys : Keyed.keys t ⊆ Keyed.keys t' := by
    intro id hid
    obtain ⟨e, he, rfl⟩ := List.mem_map.1 hid
    have hget := (Keyed.get?_eq_some_iff hsound.nodup).2 he
    obtain ⟨u, hu⟩ := Option.isSome_iff_exists.1 (h e.1 e.2 hget).1
    exact List.mem_map.2 ⟨(e.1, u), Keyed.mem_of_get?_eq_some hu, rfl⟩
  have hle := (List.Nodup.subperm hsound.nodup hkeys).length_le
  simp only [Keyed.keys] at hle
  rwa [List.length_map, List.length_map] at hle

end Table

theorem Call.result_sound {t : Table} (ht : t.Sound) (c : Call) : (c.result t).Sound := by
  simp only [Call.result]
  cases h : (c.onTable t).2 with
  | none => exact ht
  | some t' => exact onTable_sound ht h

theorem Call.follows_result {t : Table} (ht : t.Sound) (c : Call) : t.Follows (c.result t) := by
  simp only [Call.result]
  cases h : (c.onTable t).2 with
  | none => exact Table.Follows.refl t
  | some t' =>
    intro id u hu
    exact ⟨get?_onTable_isSome ht h (by rw [hu]; rfl), get?_onTable_of_deleted ht h hu⟩

/-- Whether a call gives an id a record. -/
def Call.saves (id : UserId) : Call → Bool
  | .save u => u.id = id
  | .update u => u.id = id
  | _ => false

/-- Nothing is saved where there is a deleted record. -/
theorem Call.fails_of_deleted {t : Table} {id : UserId} {u : User} (hu : Keyed.get? t id = some u)
    (hd : u.isDeleted = true) {c : Call} (hc : c.saves id = true) :
    ∃ e, (c.onTable t).1 = .error e := by
  cases c with
  | save v =>
    have hv : v.id = id := by simpa [saves] using hc
    rw [save_of_deleted (hv ▸ hu)]
    exact ⟨_, rfl⟩
  | update v =>
    have hv : v.id = id := by simpa [saves] using hc
    rw [update_of_deleted (hv ▸ hu) hd]
    exact ⟨_, rfl⟩
  | find i => cases hc
  | delete i now => cases hc
  | list r => cases hc

/-- A call that fails changes nothing. -/
theorem Call.result_of_error {t : Table} {c : Call} {e : Failure}
    (h : (c.onTable t).1 = .error e) : c.result t = t := by
  have hnone : (c.onTable t).2 = none := by
    rw [← Option.isSome_eq_false_iff.trans Option.isNone_iff_eq_none, Call.isSome_onTable, h]
    cases c <;> rfl
  simp only [Call.result]
  rw [hnone, Option.getD_none]

namespace Session

/-! ### All tables of a session -/

/-- Something holds of the shared table and of the copy of every unit. -/
def Every (P : Table → Prop) (s : Session) : Prop :=
  P s.repository.table ∧ ∀ n t, (s.unit n).staged = some t → P t

/-- What every call keeps holds of all tables after an event. -/
theorem Every.step {P : Table → Prop} (keep : ∀ (c : Call) t, P t → P (c.result t)) {s : Session}
    (h : Every P s) (e : Event) : Every P (Session.step e s).2 := by
  obtain ⟨hr, hu⟩ := h
  have hfinish : ∀ n base m t, ((s.withUnit n ⟨base, none⟩).unit m).staged = some t → P t := by
    intro n base m t hm
    rcases staged_withUnit hm with ⟨-, he⟩ | ⟨-, he⟩ <;> rw [he] at hm
    · cases hm
    · exact hu m t hm
  cases e with
  | direct c =>
    refine ⟨?_, hu⟩
    show P (s.repository.run c).2.table
    rw [Repository.run_table]
    exact keep c _ hr
  | begin =>
    refine ⟨hr, fun n t hn => ?_⟩
    rw [unit_begin] at hn
    split at hn
    · cases hn
      exact hr
    · exact hu n t hn
  | staged n c =>
    refine ⟨hr, fun m t hm => ?_⟩
    have hm' : ((s.withUnit n ((s.unit n).run c).2).unit m).staged = some t := hm
    rcases staged_withUnit hm' with ⟨rfl, he⟩ | ⟨-, he⟩ <;> rw [he] at hm'
    · cases hs : (s.unit m).staged with
      | none =>
        rw [UnitOfWork.run_of_finished hs, hs] at hm'
        cases hm'
      | some t₀ =>
        rw [UnitOfWork.run_of_staged hs] at hm'
        cases hm'
        exact keep c t₀ (hu m t₀ hs)
    · exact hu m t hm'
  | commit n =>
    constructor
    · show P ((s.unit n).commit s.repository).2.2.table
      cases hs : (s.unit n).staged with
      | none =>
        rw [UnitOfWork.commit_of_finished hs]
        exact hr
      | some t =>
        rw [UnitOfWork.commit_of_staged hs]
        split
        · exact hu n t hs
        · exact hr
    · intro m t hm
      have hm' : ((s.withUnit n ((s.unit n).commit s.repository).2.1).unit m).staged = some t := hm
      rw [UnitOfWork.commit_unit] at hm'
      exact hfinish n _ m t hm'
  | rollback n => exact ⟨hr, hfinish n _⟩

/-! ### The invariant -/

/-- All tables are sound, and a copy that can be committed follows the shared table. -/
structure Safe (s : Session) : Prop where
  sound : Every Table.Sound s
  tracked : Tracks (fun _ => Table.Follows) s

theorem safe_empty : Safe (ofRepository .empty) where
  sound := ⟨Table.sound_nil, fun _ _ h => by cases h⟩
  tracked := tracks_ofRepository _ _

theorem Safe.step {s : Session} (h : Safe s) (e : Event) : Safe (Session.step e s).2 where
  sound := h.sound.step (fun c _ ht => Call.result_sound ht c) e
  tracked := h.tracked.step e (fun _ t => Table.Follows.refl t) (fun _ _ _ _ _ hf => hf)
    (fun m c t _ hs hf => hf.trans (Call.follows_result (h.sound.2 m t hs) c))

theorem Safe.after {s : Session} (h : Safe s) (events : List Event) : Safe (run events s) :=
  Program.after_induction (fun e _ hs => hs.step e) h events

/-- One event loses no shared row and revives none. -/
theorem Safe.follows_step {s : Session} (h : Safe s) (e : Event) :
    s.repository.table.Follows (Session.step e s).2.repository.table := by
  cases e with
  | direct c =>
    show s.repository.table.Follows (s.repository.run c).2.table
    rw [Repository.run_table]
    exact Call.follows_result h.sound.1 c
  | commit n =>
    show s.repository.table.Follows ((s.unit n).commit s.repository).2.2.table
    cases hs : (s.unit n).staged with
    | none =>
      rw [UnitOfWork.commit_of_finished hs]
      exact Table.Follows.refl _
    | some t =>
      rw [UnitOfWork.commit_of_staged hs]
      split
      · rename_i hv
        exact (h.tracked n t hs).2 hv.symm
      · exact Table.Follows.refl _
  | begin => exact Table.Follows.refl _
  | staged n c => exact Table.Follows.refl _
  | rollback n => exact Table.Follows.refl _

theorem Safe.follows_run {s : Session} (h : Safe s) (events : List Event) :
    s.repository.table.Follows (run events s).repository.table := by
  induction events generalizing s with
  | nil => exact Table.Follows.refl _
  | cons e events ih => exact (h.follows_step e).trans (ih (h.step e))

/-- Where the shared table has a deleted record, nothing is saved in a unit either, unless the unit
can be committed no more. -/
theorem Safe.staged_fails_of_deleted {s : Session} (h : Safe s) {id : UserId} {u : User}
    (hu : Keyed.get? s.repository.table id = some u) (hd : u.isDeleted = true) {c : Call}
    (hc : c.saves id = true) (n : Nat) :
    (∃ err, (Session.step (.staged n c) s).1 = .error err) ∨ Overtaken n s := by
  cases hs : (s.unit n).staged with
  | none =>
    refine Or.inl ⟨finished, ?_⟩
    show ((s.unit n).run c).1 = _
    rw [UnitOfWork.run_of_finished hs]
  | some t =>
    obtain ⟨hle, hf⟩ := h.tracked n t hs
    rcases Nat.lt_or_eq_of_le hle with hlt | heq
    · exact Or.inr ⟨lt_length_of_staged hs, hlt⟩
    · obtain ⟨err, he⟩ := Call.fails_of_deleted ((hf heq id u hu).2 hd) hd hc
      refine Or.inl ⟨err, ?_⟩
      show ((s.unit n).run c).1 = _
      rw [UnitOfWork.run_of_staged hs]
      exact he

/-! ### Versions -/

/-- The version counts the successful writes. -/
theorem version_run (events : List Event) (s : Session) :
    (run events s).repository.version =
      s.repository.version + (log events s).countP fun entry => entry.1.changes entry.2 := by
  induction events generalizing s with
  | nil => rfl
  | cons e events ih =>
    show (run events (step e s).2).repository.version =
      _ + List.countP _ (⟨e, (step e s).1⟩ :: log events (step e s).2)
    have hstep := repository_step e s
    rw [ih, List.countP_cons]
    split at hstep <;> rename_i hc
    · rw [if_pos hc]
      omega
    · rw [if_neg hc, hstep]
      omega

/-- What fails writes nothing, neither to the repository nor to a copy; only a commit still finishes
its unit. -/
theorem step_of_fails {e : Event} {s : Session} (h : e.fails (step e s).1 = true) :
    (step e s).2.repository = s.repository ∧ ((∀ n, e ≠ .commit n) → (step e s).2 = s) := by
  have hstep := repository_step e s
  have hunchanged : e.changes (step e s).1 = false := by
    revert h
    generalize (step e s).1 = reply
    intro h
    cases e with
    | direct c => cases reply <;> cases c <;> first | rfl | cases h
    | begin => rfl
    | staged n c => rfl
    | commit n => cases reply <;> first | rfl | cases h
    | rollback n => rfl
  rw [if_neg (by simp [hunchanged])] at hstep
  refine ⟨hstep, fun hcommit => ?_⟩
  cases e with
  | direct c =>
    show ({ s with repository := (step (.direct c) s).2.repository } : Session) = s
    rw [hstep]
  | begin => cases h
  | staged n c =>
    show s.withUnit n ((s.unit n).run c).2 = s
    have hrun : ((s.unit n).run c).2 = s.unit n := by
      cases hs : (s.unit n).staged with
      | none => rw [UnitOfWork.run_of_finished hs]
      | some t =>
        have hreply : (step (.staged n c) s).1 = (c.onTable t).1 := by
          show ((s.unit n).run c).1 = _
          rw [UnitOfWork.run_of_staged hs]
        rw [hreply] at h
        cases he : (c.onTable t).1 with
        | ok v => rw [he] at h; cases h
        | error err =>
          rw [UnitOfWork.run_of_staged hs, Call.result_of_error he, ← hs]
    rw [hrun, withUnit_unit]
  | commit n => exact absurd rfl (hcommit n)
  | rollback n => cases h

/-- **The invariant of a repository.**  In every state that an interleaving reaches from an empty
repository, the shared table and every copy are sound; whatever follows, no shared row is lost and a
deleted one is neither revived nor changed, nor can anything be saved under its id; and the version
counts the writes, while a call that fails leaves the repository and its copy as they were. -/
theorem every_interleaving_safe (events : List Event) :
    Every Table.Sound (run events (ofRepository .empty)) ∧
    (∀ more, (run events (ofRepository .empty)).repository.table.Follows
      (run (events ++ more) (ofRepository .empty)).repository.table) ∧
    (∀ id u more c, Keyed.get? (run events (ofRepository .empty)).repository.table id = some u →
      u.isDeleted = true → c.saves id = true →
        (∃ err, (step (.direct c) (run (events ++ more) (ofRepository .empty))).1 = .error err) ∧
        ∀ n, (∃ err,
            (step (.staged n c) (run (events ++ more) (ofRepository .empty))).1 = .error err) ∨
          ∀ rest, ⟨.commit n, .ok ()⟩ ∉
            log rest (run (events ++ more) (ofRepository .empty))) ∧
    (run events (ofRepository .empty)).repository.version =
      (log events (ofRepository .empty)).countP (fun entry => entry.1.changes entry.2) ∧
    (∀ e, e.fails (step e (run events (ofRepository .empty))).1 = true →
      (step e (run events (ofRepository .empty))).2.repository =
          (run events (ofRepository .empty)).repository ∧
        ((∀ n, e ≠ .commit n) →
          (step e (run events (ofRepository .empty))).2 = run events (ofRepository .empty))) := by
  have hsafe := safe_empty.after events
  have hfollows : ∀ more, (run events (ofRepository .empty)).repository.table.Follows
      (run (events ++ more) (ofRepository .empty)).repository.table := by
    intro more
    rw [run, run, Program.after_append]
    exact hsafe.follows_run more
  refine ⟨hsafe.sound, hfollows, ?_, ?_, fun e => step_of_fails⟩
  · intro id u more c hu hd hc
    have hu' := (hfollows more id u hu).2 hd
    constructor
    · obtain ⟨err, he⟩ := Call.fails_of_deleted hu' hd hc
      refine ⟨err, ?_⟩
      show (Repository.run _ c).1 = _
      rw [Repository.run_fst]
      exact he
    · intro n
      rcases (safe_empty.after (events ++ more)).staged_fails_of_deleted hu' hd hc n with h | h
      · exact Or.inl h
      · exact Or.inr fun rest => h.commit_not_ok rest
  · rw [version_run]
    exact Nat.zero_add _

end Session

end Roster.Store
