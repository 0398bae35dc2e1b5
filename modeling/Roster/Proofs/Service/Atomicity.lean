import Roster.Proofs.Service.Requests
import Roster.Proofs.Store.Serial

/-!
# Transactions are all or nothing

The body of a transaction stages calls on its unit of work and may make calls directly on the
repository. If it succeeds and none of its direct calls has written, all staged calls take effect;
otherwise none does.

* `Closure.steps` are the steps that a body takes; `stagedCalls` and `directCalls` are the calls among
  them.
* `Running.Working` relates a unit of work to the calls so far, as long as it is neither committed nor
  given up. `Working.step` is one step, `Working.run` the whole body.
* `finish_ok` says what the commit in the end comes to, and `transaction_all_or_nothing` puts it
  together. A unit of work is of no use after its transaction, whatever the body has done with it.
-/

namespace Roster.Service

open Roster.Store

variable {α β : Type}

/-! ### Steps -/

/-- Whether a step finishes the unit of work. -/
def TxAct.ends : TxAct → Bool
  | .commit => true
  | .rollback => true
  | _ => false

/-- A step of a transaction with its answer. -/
abbrev TxStep := (x : TxAct) × x.Reply

namespace TxStep

/-- The call that a step stages, with its answer. -/
def staged? : TxStep → Option ((c : Call) × c.Reply)
  | ⟨.staged (.call c), reply⟩ => some ⟨c, reply⟩
  | _ => none

/-- The call that a step makes directly on the repository, with its answer. -/
def direct? : TxStep → Option ((c : Call) × c.Reply)
  | ⟨.outside (.call c), reply⟩ => some ⟨c, reply⟩
  | _ => none

end TxStep

/-- The calls that are staged in steps, in order. -/
def stagedCalls (steps : List TxStep) : List ((c : Call) × c.Reply) := steps.filterMap TxStep.staged?

/-- The calls that are made directly on the repository in steps, in order. -/
def directCalls (steps : List TxStep) : List ((c : Call) × c.Reply) := steps.filterMap TxStep.direct?

theorem filterMap_concat (f : α → Option β) (xs : List α) (x : α) :
    (xs ++ [x]).filterMap f = xs.filterMap f ++ (f x).toList := by
  rw [List.filterMap_append]
  cases h : f x with
  | none => simp [h]
  | some y => simp [h]

theorem stagedCalls_concat (steps : List TxStep) (step : TxStep) :
    stagedCalls (steps ++ [step]) = stagedCalls steps ++ step.staged?.toList :=
  filterMap_concat _ _ _

theorem directCalls_concat (steps : List TxStep) (step : TxStep) :
    directCalls (steps ++ [step]) = directCalls steps ++ step.direct?.toList :=
  filterMap_concat _ _ _

/-! ### While the body runs -/

namespace Running

/-- A transaction was begun on a repository and has taken steps that did not finish its unit of work. The
unit has the table that the staged calls make of the one that was copied, and the repository is what
the direct calls alone make of it. All these calls were answered accordingly. -/
structure Working (start : Repository) (steps : List TxStep) (r : Running Repository) : Prop where
  base_eq : r.unit.base = start.version
  staged : ∃ t, r.unit.staged = some t ∧ Replays (stagedCalls steps) start.table t
  answers_eq : Program.answers Repository.handle ((directCalls steps).map Sigma.fst) start =
    directCalls steps
  store_eq : Program.after Repository.handle ((directCalls steps).map Sigma.fst) start = r.world.store

theorem working_begin (w : World Repository) : Working w.store [] ⟨w, .begin w.store⟩ :=
  ⟨rfl, ⟨w.store.table, rfl, Replays.nil _⟩, rfl, rfl⟩

/-- A step that is no call, and leaves unit and repository alone, changes nothing. -/
theorem Working.idle {start : Repository} {steps : List TxStep} {r r' : Running Repository}
    (h : Working start steps r) {step : TxStep} (hstaged : step.staged? = none)
    (hdirect : step.direct? = none) (hunit : r'.unit = r.unit)
    (hstore : r'.world.store = r.world.store) : Working start (steps ++ [step]) r' := by
  have hs : stagedCalls (steps ++ [step]) = stagedCalls steps := by
    rw [stagedCalls_concat, hstaged, Option.toList_none, List.append_nil]
  have hd : directCalls (steps ++ [step]) = directCalls steps := by
    rw [directCalls_concat, hdirect, Option.toList_none, List.append_nil]
  refine ⟨?_, ?_, ?_, ?_⟩
  · rw [hunit]
    exact h.base_eq
  · rw [hunit, hs]
    exact h.staged
  · rw [hd]
    exact h.answers_eq
  · rw [hd, hstore]
    exact h.store_eq

theorem Working.staged_call {start : Repository} {steps : List TxStep} {r : Running Repository}
    (h : Working start steps r) (c : Call) :
    Working start (steps ++ [⟨.staged (.call c), (r.unit.run c).1⟩])
      { r with unit := (r.unit.run c).2 } := by
  obtain ⟨t, ht, hreplays⟩ := h.staged
  have hd : directCalls (steps ++ [⟨.staged (.call c), (r.unit.run c).1⟩]) = directCalls steps := by
    rw [directCalls_concat]
    exact List.append_nil _
  refine ⟨?_, ⟨c.result t, ?_, ?_⟩, ?_, ?_⟩
  · show (r.unit.run c).2.base = start.version
    rw [UnitOfWork.run_of_staged ht]
    exact h.base_eq
  · show (r.unit.run c).2.staged = some (c.result t)
    rw [UnitOfWork.run_of_staged ht]
  · rw [stagedCalls_concat, UnitOfWork.run_of_staged ht]
    exact hreplays.append (Replays.single c t)
  · rw [hd]
    exact h.answers_eq
  · rw [hd]
    exact h.store_eq

theorem Working.direct_call {start : Repository} {steps : List TxStep} {r : Running Repository}
    (h : Working start steps r) (c : Call) :
    Working start (steps ++ [⟨.outside (.call c), (r.world.store.run c).1⟩])
      { r with world := { r.world with store := (r.world.store.run c).2 } } := by
  have hs : stagedCalls (steps ++ [⟨.outside (.call c), (r.world.store.run c).1⟩]) =
      stagedCalls steps := by
    rw [stagedCalls_concat]
    exact List.append_nil _
  have hd : directCalls (steps ++ [⟨.outside (.call c), (r.world.store.run c).1⟩]) =
      directCalls steps ++ [⟨c, (r.world.store.run c).1⟩] := directCalls_concat _ _
  refine ⟨h.base_eq, ?_, ?_, ?_⟩
  · rw [hs]
    exact h.staged
  · rw [hd, List.map_append, Program.answers_append, h.answers_eq, h.store_eq]
    rfl
  · rw [hd, List.map_append, Program.after_append, h.store_eq]
    rfl

/-- One step of the body, unless it finishes the unit. -/
theorem Working.step {start : Repository} {steps : List TxStep} {r : Running Repository}
    (h : Working start steps r) {x : TxAct} (hx : x.ends = false) :
    Working start (steps ++ [⟨x, (tableBacking.handleTx x r).1⟩]) (tableBacking.handleTx x r).2 := by
  cases x with
  | staged act =>
    cases act with
    | call c => exact h.staged_call c
    | newUser => exact h.idle rfl rfl rfl rfl
    | changeMoment => exact h.idle rfl rfl rfl rfl
    | deletionMoment => exact h.idle rfl rfl rfl rfl
  | outside act =>
    cases act with
    | call c => exact h.direct_call c
    | newUser => exact h.idle rfl rfl rfl rfl
    | changeMoment => exact h.idle rfl rfl rfl rfl
    | deletionMoment => exact h.idle rfl rfl rfl rfl
  | nested => exact h.idle rfl rfl rfl rfl
  | commit => cases hx
  | rollback => cases hx

/-- All steps of a program, unless one of them finishes the unit. -/
theorem Working.run {start : Repository} {steps : List TxStep} {r : Running Repository}
    (h : Working start steps r) (p : Program TxAct TxAct.Reply β)
    (hp : ∀ step ∈ p.trace tableBacking.handleTx r, step.1.ends = false) :
    Working start (steps ++ p.trace tableBacking.handleTx r) (p.run tableBacking.handleTx r).2 := by
  induction p generalizing steps r with
  | done a =>
    show Working start (steps ++ []) r
    rw [List.append_nil]
    exact h
  | act x next ih =>
    have hfirst : Working start (steps ++ [⟨x, (tableBacking.handleTx x r).1⟩])
        (tableBacking.handleTx x r).2 := h.step (hp ⟨x, _⟩ List.mem_cons_self)
    have hrest := ih (tableBacking.handleTx x r).1 hfirst fun step hstep =>
      hp step (List.mem_cons_of_mem _ hstep)
    rw [List.append_assoc] at hrest
    exact hrest

/-- No direct call has written exactly if the repository still has the version of the unit. -/
theorem Working.version_eq_iff {start : Repository} {steps : List TxStep} {r : Running Repository}
    (h : Working start steps r) : r.world.store.version = r.unit.base ↔
      ∀ call ∈ directCalls steps, Event.changes (.direct call.1) call.2 = false := by
  have hversion := version_repository ((directCalls steps).map Sigma.fst) start
  rw [h.store_eq, h.answers_eq] at hversion
  rw [hversion, h.base_eq, Nat.add_eq_left, List.countP_eq_zero]
  simp only [Bool.not_eq_true]

end Running

/-! ### In the end -/

/-- The commit after a body that succeeded. -/
theorem finish_ok {r : Running Repository} {t : Table} (h : r.unit.staged = some t) :
    tableBacking.finish (.ok ()) r = if r.world.store.version = r.unit.base then
        (.ok (), ⟨{ r.world with store := ⟨t, r.world.store.version + 1⟩ }, r.unit.rollback⟩)
      else (.error overtaken, { r with unit := r.unit.rollback }) := by
  simp only [Backing.finish, tableBacking]
  rw [UnitOfWork.commit_of_staged h]
  by_cases hv : r.world.store.version = r.unit.base
  · rw [if_pos hv, if_pos hv]
    rfl
  · rw [if_neg hv, if_neg hv]
    rfl

/-- What becomes of a transaction whose unit is not finished yet. -/
theorem Running.Working.finish {start : Repository} {steps : List TxStep} {r : Running Repository}
    (h : Working start steps r) (verdict : Except Failure Unit) :
    ((tableBacking.finish verdict r).1 = .ok () ↔ verdict = .ok () ∧
        ∀ call ∈ directCalls steps, Event.changes (.direct call.1) call.2 = false) ∧
      ((tableBacking.finish verdict r).1 = .ok () →
        (tableBacking.finish verdict r).2.world.store =
          ⟨Program.after Call.handle ((stagedCalls steps).map Sigma.fst) start.table,
            start.version + 1⟩) ∧
      ∀ e, (tableBacking.finish verdict r).1 = .error e →
        (verdict = .error e ∨ verdict = .ok () ∧ e = overtaken) ∧
          (tableBacking.finish verdict r).2.world.store =
            Program.after Repository.handle ((directCalls steps).map Sigma.fst) start := by
  rw [← h.version_eq_iff]
  cases verdict with
  | error e =>
    have hfailed : tableBacking.finish (.error e) r = (.error e, { r with unit := r.unit.rollback }) := rfl
    rw [hfailed]
    refine ⟨⟨?_, ?_⟩, ?_, ?_⟩
    · intro hok
      cases hok
    · rintro ⟨hok, -⟩
      cases hok
    · intro hok
      cases hok
    · intro e' he
      exact ⟨Or.inl he, h.store_eq.symm⟩
  | ok done =>
    obtain ⟨t, ht, -, hresult⟩ := h.staged
    rw [finish_ok ht]
    by_cases hv : r.world.store.version = r.unit.base
    · rw [if_pos hv]
      refine ⟨⟨fun _ => ⟨rfl, hv⟩, fun _ => rfl⟩, fun _ => ?_, ?_⟩
      · show (⟨t, r.world.store.version + 1⟩ : Repository) = _
        rw [hresult, hv, h.base_eq]
      · intro e he
        cases he
    · rw [if_neg hv]
      refine ⟨⟨?_, fun hok => absurd hok.2 hv⟩, ?_, ?_⟩
      · intro hok
        cases hok
      · intro hok
        cases hok
      · intro e he
        exact ⟨Or.inr ⟨rfl, (Except.error.inj he).symm⟩, h.store_eq.symm⟩

/-- The unit of work is finished in any case. -/
theorem staged_finish (verdict : Except Failure Unit) (r : Running Repository) :
    (tableBacking.finish verdict r).2.unit.staged = none := by
  cases verdict with
  | error e => rfl
  | ok done =>
    have hunit : (r.unit.commit r.world.store).2.1 = r.unit.rollback := UnitOfWork.commit_unit _ _
    simp only [Backing.finish, tableBacking]
    revert hunit
    rcases r.unit.commit r.world.store with ⟨e | u, unit, store⟩
    · exact fun _ => rfl
    · intro hunit
      show unit.staged = none
      rw [show unit = r.unit.rollback from hunit]
      rfl

/-- No step takes a finished unit of work up again. -/
theorem staged_handleTx (x : TxAct) {r : Running Repository} (h : r.unit.staged = none) :
    (tableBacking.handleTx x r).2.unit.staged = none := by
  cases x with
  | staged act =>
    cases act with
    | call c =>
      show (r.unit.run c).2.staged = none
      rw [UnitOfWork.run_of_finished h]
      exact h
    | newUser => exact h
    | changeMoment => exact h
    | deletionMoment => exact h
  | outside act => exact h
  | nested => exact h
  | commit =>
    show (r.unit.commit r.world.store).2.1.staged = none
    rw [UnitOfWork.commit_unit]
    rfl
  | rollback => rfl

/-- A finished unit of work refuses calls and commits, whatever else has been done with it. -/
theorem refused_of_finished {r : Running Repository} (h : r.unit.staged = none) (later : List TxAct) :
    let r' := Program.after tableBacking.handleTx later r
    (∀ c, tableBacking.handleTx (.staged (.call c)) r' = (.error finished, r')) ∧
      tableBacking.handleTx .commit r' = (.error finished, r') := by
  intro r'
  have hr' : r'.unit.staged = none :=
    Program.after_induction (P := fun r : Running Repository => r.unit.staged = none)
      (fun x _ hr => staged_handleTx x hr) h later
  constructor
  · intro c
    show ((r'.unit.run c).1, (⟨r'.world, (r'.unit.run c).2⟩ : Running Repository)) = _
    rw [UnitOfWork.run_of_finished hr']
  · show ((r'.unit.commit r'.world.store).1, (⟨⟨(r'.unit.commit r'.world.store).2.2, r'.world.stamps⟩,
      (r'.unit.commit r'.world.store).2.1⟩ : Running Repository)) = _
    rw [UnitOfWork.commit_of_finished hr']

/-! ### Transactions -/

namespace Closure

/-- The steps that a body takes in a transaction. -/
def steps (body : Closure α) (w : World Repository) : List TxStep :=
  body.trace tableBacking.handleTx ⟨w, .begin w.store⟩

/-- What a body ends with in a transaction. -/
def verdict (body : Closure α) (w : World Repository) : Except Failure Unit :=
  (body.run tableBacking.handleTx ⟨w, .begin w.store⟩).1.2

/-- The unit of work once the transaction has returned. -/
def unitLeft (body : Closure α) (w : World Repository) : UnitOfWork :=
  (tableBacking.runClosure body ⟨w, .begin w.store⟩).2.unit

end Closure

/-- **Transactions are all or nothing.**  Let the body neither commit nor give up its unit of work itself.
Its staged calls are answered as on the table at the beginning, and its direct calls as if there were no
transaction. The transaction succeeds exactly if the body succeeds and no direct call has written; then
the repository is the table at the beginning with the staged calls made on it in order. Otherwise it
fails with the body's own failure or with a conflict, and the repository is what the direct calls alone
make of it. And after any transaction, whatever its body does and whatever happens later, its unit of
work refuses every call and every commit, and nothing changes. -/
theorem transaction_all_or_nothing (body : Closure α) (w : World Repository) :
    ((∀ step ∈ body.steps w, step.1.ends = false) →
      (Program.answers Call.handle ((stagedCalls (body.steps w)).map Sigma.fst) w.store.table =
          stagedCalls (body.steps w) ∧
        Program.answers Repository.handle ((directCalls (body.steps w)).map Sigma.fst) w.store =
          directCalls (body.steps w)) ∧
      (((base tableBacking).transact body w).1.2 = .ok () ↔ body.verdict w = .ok () ∧
        ∀ call ∈ directCalls (body.steps w), Event.changes (.direct call.1) call.2 = false) ∧
      (((base tableBacking).transact body w).1.2 = .ok () →
        ((base tableBacking).transact body w).2.store =
          ⟨Program.after Call.handle ((stagedCalls (body.steps w)).map Sigma.fst) w.store.table,
            w.store.version + 1⟩) ∧
      ∀ e, ((base tableBacking).transact body w).1.2 = .error e →
        (body.verdict w = .error e ∨ body.verdict w = .ok () ∧ e = overtaken) ∧
          ((base tableBacking).transact body w).2.store =
            Program.after Repository.handle ((directCalls (body.steps w)).map Sigma.fst) w.store) ∧
    ∀ world later r, Program.after tableBacking.handleTx later ⟨world, body.unitLeft w⟩ = r →
      (∀ c, tableBacking.handleTx (.staged (.call c)) r = (.error finished, r)) ∧
        tableBacking.handleTx .commit r = (.error finished, r) := by
  refine ⟨fun hends => ?_, fun world later r hr => ?_⟩
  · have hworking : Running.Working w.store (body.steps w)
        (body.run tableBacking.handleTx ⟨w, .begin w.store⟩).2 :=
      (Running.working_begin w).run body hends
    obtain ⟨t, -, hstaged, -⟩ := hworking.staged
    exact ⟨⟨hstaged, hworking.answers_eq⟩, hworking.finish (body.verdict w)⟩
  · have hleft : (body.unitLeft w).staged = none := staged_finish _ _
    subst hr
    exact refused_of_finished (r := ⟨world, body.unitLeft w⟩) hleft later

/-- A user that the trial stages. -/
def stagedUser : User :=
  .create (.inSeries 1) "Jane" ⟨"jane@x.com", by decide +kernel, by decide +kernel⟩
    (Stamps.still.moments 0)

/-- A user that the trial saves directly. -/
def directUser : User :=
  .create (.inSeries 2) "Rob" ⟨"rob@x.com", by decide +kernel, by decide +kernel⟩
    (Stamps.still.moments 0)

/-- Stages one user, saves the other directly on the repository, and succeeds. -/
def trialBody : Closure Unit :=
  .act (.staged (.call (.save stagedUser))) fun _ =>
    .act (.outside (.call (.save directUser))) fun _ => .done ((), .ok ())

/-- The transaction of the trial fails, and only the user that was saved directly is there. -/
theorem transaction_all_or_nothing_in_trial :
    (∀ step ∈ trialBody.steps ⟨.empty, .still⟩, step.1.ends = false) ∧
      ((base tableBacking).transact trialBody ⟨.empty, .still⟩).1.2 = .error overtaken ∧
      ((base tableBacking).transact trialBody ⟨.empty, .still⟩).2.store =
        Program.after Repository.handle [.save directUser] .empty := by
  have hends : ∀ step ∈ trialBody.steps ⟨.empty, .still⟩, step.1.ends = false := by
    intro step hstep
    rcases List.mem_cons.1 hstep with rfl | hstep
    · rfl
    · rw [List.mem_singleton.1 hstep]
      rfl
  have hfailed : ((base tableBacking).transact trialBody ⟨.empty, .still⟩).1.2 = .error overtaken := by
    decide +kernel
  obtain ⟨-, -, -, herror⟩ := (transaction_all_or_nothing trialBody ⟨.empty, .still⟩).1 hends
  exact ⟨hends, hfailed, (herror overtaken hfailed).2⟩

end Roster.Service
