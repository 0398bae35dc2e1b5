import Roster.Program
import Roster.Proofs.Store.Rows
import Roster.Store.Repository

/-!
# A repository and its units of work side by side

A *session* is a repository together with all units of work that were begun on it. Its events are the
calls on the repository and on the units, in any order: every interleaving is a list of events.

* `Session.step` is one event, `Session.run` and `Session.log` many.
* `Event.changes` tells the events that change the repository; `repository_step` says that the others
  leave it as it is, and that a change counts one version on.
-/

namespace Roster.Store

/-! ### Events -/

/-- A call on a repository or on a unit of work. Units are numbered in the order in which they were
begun. -/
inductive Event where
  | direct (c : Call)
  | begin
  | staged (n : Nat) (c : Call)
  | commit (n : Nat)
  | rollback (n : Nat)
  deriving DecidableEq, Repr

namespace Event

/-- What an event is answered. A unit that is begun answers with its number. -/
abbrev Reply : Event → Type
  | .direct c => c.Reply
  | .begin => Nat
  | .staged _ c => c.Reply
  | .commit _ => Except Failure Unit
  | .rollback _ => Except Failure Unit

/-- Whether an event is a call on a unit. -/
def concerns (n : Nat) : Event → Bool
  | .staged m _ => m = n
  | .commit m => m = n
  | .rollback m => m = n
  | _ => false

/-- Whether an event ends a unit. -/
def ends (n : Nat) : Event → Bool
  | .commit m => m = n
  | .rollback m => m = n
  | _ => false

theorem eq_staged {e : Event} {n : Nat} (hc : e.concerns n = true) (he : e.ends n = false) :
    ∃ c, e = .staged n c := by
  cases e with
  | staged m c =>
    have hm : m = n := by simpa [concerns] using hc
    exact ⟨c, hm ▸ rfl⟩
  | _ => simp_all [concerns, ends]

/-- Whether an event with this answer is a successful write to the repository: a deletion that found
nobody is none. -/
def changes : (e : Event) → e.Reply → Bool
  | .direct (.save _), .ok _ => true
  | .direct (.update _), .ok _ => true
  | .direct (.delete ..), .ok found => found
  | .commit _, .ok _ => true
  | _, _ => false

/-- Among the calls on a unit only a successful commit changes the repository. -/
theorem changes_eq_false {e : Event} {n : Nat} (hc : e.concerns n = true) {reply : e.Reply}
    (h : (⟨e, reply⟩ : (e : Event) × e.Reply) ≠ ⟨.commit n, .ok ()⟩) :
    e.changes reply = false := by
  cases e with
  | direct c => cases hc
  | begin => cases hc
  | staged m c => rfl
  | commit m =>
    have hm : m = n := by simpa [concerns] using hc
    subst hm
    cases reply with
    | error e => rfl
    | ok u => exact absurd rfl h
  | rollback m => rfl

/-- Whether an event with this answer has failed. -/
def fails : (e : Event) → e.Reply → Bool
  | .direct _, .error _ => true
  | .staged _ _, .error _ => true
  | .commit _, .error _ => true
  | .rollback _, .error _ => true
  | _, _ => false

end Event

/-! ### Calls on a repository and on a unit -/

/-- The table after a call. -/
def Call.result (c : Call) (t : Table) : Table := (c.onTable t).2.getD t

theorem Repository.run_fst (r : Repository) (c : Call) : (r.run c).1 = (c.onTable r.table).1 := by
  simp only [Repository.run]
  rcases c.onTable r.table with ⟨reply, _ | t⟩ <;> rfl

theorem Repository.run_table (r : Repository) (c : Call) : (r.run c).2.table = c.result r.table := by
  simp only [Repository.run, Call.result]
  rcases c.onTable r.table with ⟨reply, _ | t⟩ <;> rfl

/-- A call gives a changed table exactly if it is a successful write. -/
theorem Call.isSome_onTable (c : Call) (t : Table) :
    (c.onTable t).2.isSome = Event.changes (.direct c) (c.onTable t).1 := by
  cases c with
  | save u => simp only [Call.onTable]; cases t.insert u <;> rfl
  | find id => rfl
  | update u => simp only [Call.onTable]; cases t.update u <;> rfl
  | delete id now => simp only [Call.onTable]; cases t.softDelete? id now <;> rfl
  | list q => rfl

/-- A direct call writes, and counts, or does nothing. -/
theorem Repository.run_snd (r : Repository) (c : Call) :
    (r.run c).2 = if Event.changes (.direct c) (r.run c).1 then
      ⟨c.result r.table, r.version + 1⟩ else r := by
  rw [Repository.run_fst, ← Call.isSome_onTable]
  simp only [Repository.run, Call.result]
  rcases c.onTable r.table with ⟨reply, _ | t⟩ <;> rfl

theorem UnitOfWork.run_of_staged {w : UnitOfWork} {t : Table} (h : w.staged = some t) (c : Call) :
    w.run c = ((c.onTable t).1, { w with staged := some (c.result t) }) := by
  obtain ⟨base, staged⟩ := w
  subst h
  simp only [UnitOfWork.run, Call.result]
  rcases c.onTable t with ⟨reply, _ | t'⟩ <;> rfl

theorem UnitOfWork.run_of_finished {w : UnitOfWork} (h : w.staged = none) (c : Call) :
    w.run c = (.error finished, w) := by
  simp only [UnitOfWork.run]
  rw [h]

theorem UnitOfWork.commit_of_finished {w : UnitOfWork} (h : w.staged = none) (r : Repository) :
    w.commit r = (.error finished, w, r) := by
  simp only [UnitOfWork.commit]
  rw [h]

theorem UnitOfWork.commit_of_staged {w : UnitOfWork} {t : Table} (h : w.staged = some t)
    (r : Repository) :
    w.commit r = if r.version = w.base then (.ok (), { w with staged := none }, ⟨t, r.version + 1⟩)
      else (.error overtaken, { w with staged := none }, r) := by
  simp only [UnitOfWork.commit]
  rw [h]

/-- A commit finishes the unit, whatever it answers. -/
theorem UnitOfWork.commit_unit (w : UnitOfWork) (r : Repository) :
    (w.commit r).2.1 = w.rollback := by
  cases h : w.staged with
  | none =>
    rw [UnitOfWork.commit_of_finished h]
    show w = { w with staged := none }
    rw [← h]
  | some t =>
    rw [UnitOfWork.commit_of_staged h]
    split <;> rfl

/-- A commit succeeds only for a unit that is not finished and was begun at the present version, and
then the unit's table is the shared one. -/
theorem UnitOfWork.commit_eq_ok {w : UnitOfWork} {r : Repository} (h : (w.commit r).1 = .ok ()) :
    ∃ t, w.staged = some t ∧ r.version = w.base ∧ (w.commit r).2.2 = ⟨t, r.version + 1⟩ := by
  cases hs : w.staged with
  | none =>
    rw [UnitOfWork.commit_of_finished hs] at h
    cases h
  | some t =>
    rw [UnitOfWork.commit_of_staged hs] at h ⊢
    split at h
    · rename_i hv
      refine ⟨t, rfl, hv, ?_⟩
      rw [if_pos hv]
    · cases h

/-! ### Sessions -/

/-- A repository and the units of work begun on it, the oldest first. -/
structure Session where
  repository : Repository
  units : List UnitOfWork

namespace Session

/-- A repository on which no unit has been begun. -/
def ofRepository (r : Repository) : Session := ⟨r, []⟩

/-- A unit of the session. A number that no unit has yet stands for a finished one. -/
def unit (s : Session) (n : Nat) : UnitOfWork := s.units[n]?.getD ⟨0, none⟩

/-- The session with another state of a unit. -/
def withUnit (s : Session) (n : Nat) (w : UnitOfWork) : Session :=
  { s with units := s.units.set n w }

/-- One event. -/
def step : Program.Handler Event Event.Reply Session
  | .direct c, s => ((s.repository.run c).1, { s with repository := (s.repository.run c).2 })
  | .begin, s => (s.units.length, { s with units := s.units ++ [.begin s.repository] })
  | .staged n c, s => (((s.unit n).run c).1, s.withUnit n ((s.unit n).run c).2)
  | .commit n, s =>
    (((s.unit n).commit s.repository).1,
      { s.withUnit n ((s.unit n).commit s.repository).2.1 with
        repository := ((s.unit n).commit s.repository).2.2 })
  | .rollback n, s => (.ok (), s.withUnit n (s.unit n).rollback)

/-- What the events of an interleaving are answered. -/
abbrev log (events : List Event) (s : Session) : List ((e : Event) × e.Reply) :=
  Program.answers step events s

/-- The session after the events of an interleaving. -/
abbrev run (events : List Event) (s : Session) : Session := Program.after step events s

/-! ### Units -/

@[simp] theorem repository_withUnit (s : Session) (n : Nat) (w : UnitOfWork) :
    (s.withUnit n w).repository = s.repository := rfl

theorem unit_withUnit (s : Session) (n : Nat) (w : UnitOfWork) (m : Nat) :
    (s.withUnit n w).unit m = if m = n ∧ n < s.units.length then w else s.unit m := by
  simp only [unit, withUnit]
  by_cases hm : m = n
  · subst hm
    by_cases hlt : m < s.units.length
    · rw [if_pos ⟨rfl, hlt⟩, List.getElem?_set_self hlt, Option.getD_some]
    · rw [if_neg (fun h => hlt h.2), List.set_eq_of_length_le (Nat.le_of_not_lt hlt)]
  · rw [if_neg (fun h => hm h.1), List.getElem?_set_ne (Ne.symm hm)]

theorem unit_withUnit_of_ne (s : Session) {m n : Nat} (h : m ≠ n) (w : UnitOfWork) :
    (s.withUnit n w).unit m = s.unit m := by
  rw [unit_withUnit, if_neg (fun hc => h hc.1)]

theorem unit_withUnit_self {s : Session} {n : Nat} (h : n < s.units.length) (w : UnitOfWork) :
    (s.withUnit n w).unit n = w := by
  rw [unit_withUnit, if_pos ⟨rfl, h⟩]

theorem unit_of_length_le (s : Session) {n : Nat} (h : s.units.length ≤ n) :
    s.unit n = ⟨0, none⟩ := by
  simp only [unit]
  rw [List.getElem?_eq_none h, Option.getD_none]

theorem lt_length_of_staged {s : Session} {n : Nat} {t : Table} (h : (s.unit n).staged = some t) :
    n < s.units.length := by
  refine Nat.lt_of_not_le fun hle => ?_
  rw [unit_of_length_le s hle] at h
  cases h

/-- What a changed unit looks like under every number: a unit that was not begun stays finished. -/
theorem staged_withUnit {s : Session} {n m : Nat} {w : UnitOfWork} {t : Table}
    (h : ((s.withUnit n w).unit m).staged = some t) :
    m = n ∧ (s.withUnit n w).unit m = w ∨ m ≠ n ∧ (s.withUnit n w).unit m = s.unit m := by
  by_cases he : m = n
  · subst he
    refine Or.inl ⟨rfl, unit_withUnit_self ?_ w⟩
    have := lt_length_of_staged h
    simpa [withUnit] using this
  · exact Or.inr ⟨he, unit_withUnit_of_ne s he w⟩

/-- A new unit is a copy of the repository, and the others stay what they were. -/
theorem unit_begin (s : Session) (m : Nat) :
    (step .begin s).2.unit m =
      if m = s.units.length then .begin s.repository else s.unit m := by
  show (s.units ++ [_])[m]?.getD _ = if m = s.units.length then _ else s.units[m]?.getD _
  rcases Nat.lt_trichotomy m s.units.length with hlt | he | hgt
  · rw [if_neg (Nat.ne_of_lt hlt), List.getElem?_append_left hlt]
  · rw [if_pos he, he, List.getElem?_concat_length, Option.getD_some]
  · rw [if_neg (Nat.ne_of_gt hgt), List.getElem?_eq_none (Nat.le_of_lt hgt),
      List.getElem?_eq_none (by rw [List.length_append]; exact hgt)]

/-! ### The shared table -/

/-- An event changes the repository and counts one version on, or leaves it as it is. -/
theorem repository_step (e : Event) (s : Session) :
    if e.changes (step e s).1 then
      (step e s).2.repository.version = s.repository.version + 1
    else (step e s).2.repository = s.repository := by
  cases e with
  | direct c =>
    have h := Repository.run_snd s.repository c
    show if Event.changes (.direct c) (s.repository.run c).1 then
      (s.repository.run c).2.version = _ else (s.repository.run c).2 = _
    split <;> rename_i hc <;> simp [h, hc]
  | begin => rfl
  | staged n c => rfl
  | commit n =>
    show if Event.changes (.commit n) ((s.unit n).commit s.repository).1 then
      ((s.unit n).commit s.repository).2.2.version = _
      else ((s.unit n).commit s.repository).2.2 = _
    cases h : (s.unit n).staged with
    | none => rw [UnitOfWork.commit_of_finished h]; rfl
    | some t =>
      rw [UnitOfWork.commit_of_staged h]
      split <;> rfl
  | rollback n => rfl

theorem version_le_step (e : Event) (s : Session) :
    s.repository.version ≤ (step e s).2.repository.version := by
  have h := repository_step e s
  split at h
  · omega
  · exact Nat.le_of_eq (by rw [h])

end Session

end Roster.Store
