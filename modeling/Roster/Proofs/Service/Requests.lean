import Roster.Proofs.Service.Origins

/-!
# Runs with transactions

What a service is asked for is an operation or a transaction, and a run is any list of both.

* `Request` and `UserService.answer` are requests and their answers; `after_operations` compares runs
  of operations alone.
* `transact_sound` says that no transaction makes the table unsound, whatever its body does: it stages
  calls, makes them directly on the repository, and commits or gives up when it likes.
* `behind_after` says that a cache does not show in the service behind it, and `generation_after` which
  generation a run has reached.
-/

namespace Roster.Service

open Roster.Cache Roster.Number Roster.Store

variable {α σ ρ : Type}

/-! ### Requests -/

/-- What a service is asked for. The notes of transactions are of type `α`. -/
inductive Request (α : Type) where
  | operation (op : Operation)
  | transaction (body : Closure α)

/-- What a request is answered. -/
abbrev Request.Reply : Request α → Type
  | .operation op => op.Reply
  | .transaction _ => Option α × Except Failure Unit

/-- The answer of a service to a request. -/
def UserService.answer (service : UserService σ) : Program.Handler (Request α) Request.Reply σ
  | .operation op, s => service.run op s
  | .transaction body, s => service.transact body s

/-- Whether a request with this answer is an operation that has changed the directory. -/
def Request.changed : (q : Request α) → q.Reply → Bool
  | .operation op, reply => op.changed reply
  | .transaction _, _ => false

/-- How many of the answers in a run say that an operation has changed the directory. -/
def renewals (answers : List ((q : Request α) × q.Reply)) : Nat :=
  answers.countP fun a => a.1.changed a.2

theorem renewals_append (before since : List (Request α)) (w : World Repository) :
    renewals (Program.answers (base tableBacking).answer (before ++ since) w) =
      renewals (Program.answers (base tableBacking).answer before w) +
        renewals (Program.answers (base tableBacking).answer since
          (Program.after (base tableBacking).answer before w)) := by
  simp only [renewals]
  rw [Program.answers_append, List.countP_append]

/-! ### Operations alone -/

theorem after_operations (service : UserService σ) (ops : List Operation) (s : σ) :
    Program.after service.answer (ops.map Request.operation : List (Request α)) s =
      Program.after service.run ops s := by
  induction ops generalizing s with
  | nil => rfl
  | cons op ops ih => exact ih (service.run op s).2

/-! ### Transactions -/

/-- The shared table and the copy of the unit of work are sound. -/
def Running.Sound (r : Running Repository) : Prop :=
  r.world.store.table.Sound ∧ ∀ t, r.unit.staged = some t → t.Sound

theorem Running.Sound.rollback {r : Running Repository} (h : r.Sound) :
    Running.Sound { r with unit := r.unit.rollback } := by
  refine ⟨h.1, ?_⟩
  intro t ht
  cases ht

/-- A commit puts one sound table in the place of another. -/
theorem Running.Sound.commit {r : Running Repository} (h : r.Sound) :
    Running.Sound ⟨{ r.world with store := (r.unit.commit r.world.store).2.2 },
      (r.unit.commit r.world.store).2.1⟩ := by
  have hunit : (r.unit.commit r.world.store).2.1 = r.unit.rollback := UnitOfWork.commit_unit _ _
  have hdone : ∀ t, (r.unit.commit r.world.store).2.1.staged = some t → t.Sound := by
    intro t ht
    rw [hunit] at ht
    cases ht
  refine ⟨?_, hdone⟩
  cases hs : r.unit.staged with
  | none =>
    rw [UnitOfWork.commit_of_finished hs]
    exact h.1
  | some t =>
    rw [UnitOfWork.commit_of_staged hs]
    split
    · exact h.2 t hs
    · exact h.1

/-- Whatever a step of a transaction does, the tables stay sound. -/
theorem Running.Sound.step {r : Running Repository} (h : r.Sound) (x : TxAct) :
    (tableBacking.handleTx x r).2.Sound := by
  cases x with
  | staged act =>
    cases act with
    | call c =>
      refine ⟨h.1, ?_⟩
      show ∀ t, (r.unit.run c).2.staged = some t → t.Sound
      intro t ht
      cases hs : r.unit.staged with
      | none =>
        rw [UnitOfWork.run_of_finished hs, hs] at ht
        cases ht
      | some t' =>
        rw [UnitOfWork.run_of_staged hs] at ht
        rw [← Option.some.inj ht]
        exact Call.result_sound (h.2 t' hs) c
    | newUser => exact h
    | changeMoment => exact h
    | deletionMoment => exact h
  | outside act =>
    cases act with
    | call c =>
      refine ⟨?_, h.2⟩
      show (r.world.store.run c).2.table.Sound
      rw [Repository.run_table]
      exact Call.result_sound h.1 c
    | newUser => exact h
    | changeMoment => exact h
    | deletionMoment => exact h
  | nested => exact h
  | commit => exact h.commit
  | rollback => exact h.rollback

theorem Running.Sound.finish {r : Running Repository} (h : r.Sound) (verdict : Except Failure Unit) :
    (tableBacking.finish verdict r).2.Sound := by
  cases verdict with
  | error e => exact h.rollback
  | ok done =>
    have hcommit := h.commit
    simp only [Backing.finish, tableBacking]
    revert hcommit
    rcases r.unit.commit r.world.store with ⟨e | u, unit, store⟩
    · intro hcommit
      exact hcommit.rollback
    · intro hcommit
      exact hcommit

/-- Every transaction keeps the table sound. -/
theorem transact_sound {w : World Repository} (h : w.store.table.Sound) (body : Closure α) :
    ((base tableBacking).transact body w).2.store.table.Sound := by
  have hbegun : Running.Sound ⟨w, .begin w.store⟩ := by
    refine ⟨h, ?_⟩
    intro t ht
    rw [← Option.some.inj ht]
    exact h
  have hrun : Running.Sound (body.run tableBacking.handleTx ⟨w, .begin w.store⟩).2 :=
    Program.run_keeps (P := Running.Sound) (fun x r hr => hr.step x) body hbegun
  exact (hrun.finish (body.run tableBacking.handleTx ⟨w, .begin w.store⟩).1.2).1

theorem answer_sound {w : World Repository} (h : w.store.table.Sound) (q : Request α) :
    ((base tableBacking).answer q w).2.store.table.Sound := by
  cases q with
  | operation op => exact base_sound h op
  | transaction body => exact transact_sound h body

/-! ### Behind a cache -/

section Fronted

variable (cache : Layered ρ)

/-- A transaction goes past the cache. -/
theorem answer_transaction (body : Closure α) (s : Fronted ρ) :
    (fronted cache).answer (.transaction body) s =
      (((base tableBacking).transact body s.behind).1,
        { s with behind := ((base tableBacking).transact body s.behind).2 }) := rfl

/-- The service behind does what it would do without a cache, and what changes the directory by an
operation, and nothing else, begins a new generation. -/
theorem answer_beside_tiers (q : Request α) (s : Fronted ρ) :
    ((fronted cache).answer q s).2.behind = ((base tableBacking).answer q s.behind).2 ∧
      ((fronted cache).answer q s).2.generation =
        if q.changed ((base tableBacking).answer q s.behind).1 then s.generation.bump
        else s.generation := by
  cases q with
  | operation op => exact step_beside_tiers cache op s
  | transaction body => exact ⟨rfl, rfl⟩

theorem behind_after (requests : List (Request α)) (s : Fronted ρ) :
    (Program.after (fronted cache).answer requests s).behind =
      Program.after (base tableBacking).answer requests s.behind := by
  induction requests generalizing s with
  | nil => rfl
  | cons q requests ih =>
    show (Program.after _ requests ((fronted cache).answer q s).2).behind = _
    rw [ih, (answer_beside_tiers cache q s).1]
    rfl

/-- A run reaches the generation that its changes count up to. -/
theorem generation_after (requests : List (Request α)) {s : Fronted ρ}
    (h : s.generation.current ≤ wordMax) :
    (Program.after (fronted cache).answer requests s).generation.current =
      wrapped (s.generation.current +
        renewals (Program.answers (base tableBacking).answer requests s.behind)) := by
  induction requests generalizing s with
  | nil => exact (wrapped_of_le h).symm
  | cons q requests ih =>
    obtain ⟨hbehind, hgeneration⟩ := answer_beside_tiers cache q s
    have hnext : ((fronted cache).answer q s).2.generation.current = wrapped (s.generation.current +
        if q.changed ((base tableBacking).answer q s.behind).1 then 1 else 0) := by
      rw [hgeneration]
      split
      · rfl
      · exact (wrapped_of_le h).symm
    have hrest := ih (s := ((fronted cache).answer q s).2) (by rw [hnext]; exact wrapped_le _)
    rw [hbehind, hnext] at hrest
    show (Program.after _ requests ((fronted cache).answer q s).2).generation.current = _
    rw [hrest]
    simp only [renewals]
    rw [Program.answers, List.countP_cons]
    simp only [wrapped]
    omega

end Fronted

section Known

variable {cache : Layered ρ} {may : ρ → Prop} {firm : Prop}
  {held : Tiers ρ → String → ByteArray → Prop} (h : cache.Tracked may firm held) {s : Fronted ρ}

include h

/-- What every request keeps of the state: the remote tier is in a state in which it is known, and the
table is sound. -/
theorem known_answer (hknown : may s.tiers.far ∧ s.behind.store.table.Sound) (q : Request α) :
    may ((fronted cache).answer q s).2.tiers.far ∧
      ((fronted cache).answer q s).2.behind.store.table.Sound := by
  refine ⟨?_, ?_⟩
  · cases q with
    | operation op => exact may_step h hknown.1 op
    | transaction body => exact hknown.1
  · rw [(answer_beside_tiers cache q s).1]
    exact answer_sound hknown.2 q

theorem known_after (hknown : may s.tiers.far ∧ s.behind.store.table.Sound)
    (requests : List (Request α)) :
    may (Program.after (fronted cache).answer requests s).tiers.far ∧
      (Program.after (fronted cache).answer requests s).behind.store.table.Sound :=
  Program.after_induction (P := fun s : Fronted ρ => may s.tiers.far ∧ s.behind.store.table.Sound)
    (fun q _ ht => known_answer h ht q) hknown requests

end Known

end Roster.Service
