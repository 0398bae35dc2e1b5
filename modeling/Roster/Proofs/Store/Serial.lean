import Mathlib.Logic.Function.Basic
import Roster.Proofs.Store.Units

/-!
# Units of work are serializable

Whatever calls are made on a repository and its units of work, and in whatever order, the outcome is
that of a serial run: every direct call is made where it stands, and every unit that was committed
makes all of its calls at once at the moment of its commit.

* `Session.serialOrder` puts the calls of a log in the order of the serial run.
* `Session.replays_serialFrom` is the induction over the interleaving. What it carries along is that
  the calls staged so far, made on the shared table, would give the unit's table and the answers that
  were given, as long as the shared table is the one that was copied.
* `Session.Same` relates two sessions that differ in one unit only; it serves to leave out the calls
  on a unit that is never committed.
-/

namespace Roster.Store

/-- What a call does to a table alone. -/
def Call.handle : Program.Handler Call Call.Reply Table := fun c t => ((c.onTable t).1, c.result t)

/-- A direct call. -/
def Repository.handle : Program.Handler Call Call.Reply Repository := fun c r => r.run c

/-! ### Calls on a table alone -/

/-- The answers and the table are those of making the calls on a table one after another. -/
def Replays (calls : List ((c : Call) × c.Reply)) (t t' : Table) : Prop :=
  Program.answers Call.handle (calls.map Sigma.fst) t = calls ∧
    Program.after Call.handle (calls.map Sigma.fst) t = t'

theorem Replays.nil (t : Table) : Replays [] t t := ⟨rfl, rfl⟩

theorem Replays.append {cs ds : List ((c : Call) × c.Reply)} {t t' t'' : Table}
    (h : Replays cs t t') (h' : Replays ds t' t'') : Replays (cs ++ ds) t t'' := by
  obtain ⟨ha, hs⟩ := h
  obtain ⟨ha', hs'⟩ := h'
  constructor
  · rw [List.map_append, Program.answers_append, ha, hs, ha']
  · rw [List.map_append, Program.after_append, hs, hs']

theorem Replays.single (c : Call) (t : Table) : Replays [⟨c, (c.onTable t).1⟩] t (c.result t) :=
  ⟨rfl, rfl⟩

/-- A repository answers direct calls as its table does. -/
theorem answers_repository (cs : List Call) (r : Repository) :
    Program.answers Repository.handle cs r = Program.answers Call.handle cs r.table ∧
      (Program.after Repository.handle cs r).table = Program.after Call.handle cs r.table := by
  induction cs generalizing r with
  | nil => exact ⟨rfl, rfl⟩
  | cons c cs ih =>
    obtain ⟨ha, hs⟩ := ih (r.run c).2
    rw [Repository.run_table] at ha hs
    refine ⟨?_, hs⟩
    show (⟨c, (r.run c).1⟩ : (c : Call) × c.Reply) :: _ = ⟨c, (c.onTable r.table).1⟩ :: _
    rw [Repository.run_fst]
    exact congrArg _ ha

/-- A repository counts the direct calls that write. -/
theorem version_repository (cs : List Call) (r : Repository) :
    (Program.after Repository.handle cs r).version = r.version +
      (Program.answers Repository.handle cs r).countP fun a => Event.changes (.direct a.1) a.2 := by
  induction cs generalizing r with
  | nil => rfl
  | cons c cs ih =>
    have hrun := Repository.run_snd r c
    show (Program.after Repository.handle cs (r.run c).2).version = _ + List.countP _
      (⟨c, (r.run c).1⟩ :: Program.answers Repository.handle cs (r.run c).2)
    rw [ih, List.countP_cons]
    split at hrun <;> rename_i hc
    · rw [if_pos hc, hrun]
      show r.version + 1 + _ = _
      omega
    · rw [if_neg hc, hrun]
      omega

namespace Session

/-! ### The serial run -/

/-- The calls of a log in serial order with their answers, where `staged` are the calls that are
staged so far in each unit. -/
def serialFrom (staged : Nat → List ((c : Call) × c.Reply)) :
    List ((e : Event) × e.Reply) → List ((c : Call) × c.Reply)
  | [] => []
  | ⟨.direct c, reply⟩ :: log => ⟨c, reply⟩ :: serialFrom staged log
  | ⟨.begin, n⟩ :: log => serialFrom (Function.update staged n []) log
  | ⟨.staged n c, reply⟩ :: log =>
    serialFrom (Function.update staged n (staged n ++ [⟨c, reply⟩])) log
  | ⟨.commit n, .ok ()⟩ :: log => staged n ++ serialFrom staged log
  | ⟨.commit _, .error _⟩ :: log => serialFrom staged log
  | ⟨.rollback _, _⟩ :: log => serialFrom staged log

/-- The calls of a log in serial order with their answers: direct calls where they stand, and those
of a unit where its commit succeeds. -/
def serialOrder (log : List ((e : Event) × e.Reply)) : List ((c : Call) × c.Reply) :=
  serialFrom (fun _ => []) log

/-- The serial run gives every answer again, and the same table in the end. -/
theorem replays_serialFrom (events : List Event) {s : Session}
    {staged : Nat → List ((c : Call) × c.Reply)} (h : Tracks (fun n => Replays (staged n)) s) :
    Replays (serialFrom staged (log events s)) s.repository.table
      (run events s).repository.table := by
  induction events generalizing s staged with
  | nil => exact Replays.nil _
  | cons e events ih =>
    show Replays (serialFrom staged (⟨e, (step e s).1⟩ :: log events (step e s).2)) _
      (run events (step e s).2).repository.table
    cases e with
    | direct c =>
      have hnext := ih (h.step (.direct c) (by simp) (fun _ _ _ _ _ hr => hr) (by simp))
      have hhead : Replays [⟨c, (step (.direct c) s).1⟩] s.repository.table
          (step (.direct c) s).2.repository.table := by
        show Replays [⟨c, (s.repository.run c).1⟩] _ (s.repository.run c).2.table
        rw [Repository.run_fst, Repository.run_table]
        exact Replays.single c _
      exact hhead.append hnext
    | begin =>
      have hnext := @ih _ (Function.update staged s.units.length [])
        (h.step .begin
          (fun _ t => by rw [Function.update_self]; exact Replays.nil t)
          (fun m _ hm _ _ hr => by
            rw [Function.update_of_ne (Nat.ne_of_lt (hm rfl))]; exact hr)
          (by simp))
      exact hnext
    | staged n c =>
      have hnext := @ih _ (Function.update staged n
          (staged n ++ [⟨c, (step (.staged n c) s).1⟩]))
        (h.step (.staged n c) (by simp)
          (fun m hm _ _ _ hr => by
            rw [Function.update_of_ne (fun he => hm c (by rw [he]))]; exact hr)
          (fun m c' t he hs hr => by
            injection he with hn hc
            subst hn hc
            have hreply : (step (.staged n c) s).1 = (c.onTable t).1 := by
              show ((s.unit n).run c).1 = _
              rw [UnitOfWork.run_of_staged hs]
            rw [Function.update_self, hreply]
            exact hr.append (Replays.single c t)))
      exact hnext
    | commit n =>
      have hnext := ih (h.step (.commit n) (by simp) (fun _ _ _ _ _ hr => hr) (by simp))
      cases hreply : (step (.commit n) s).1 with
      | error err =>
        have hsame : (step (.commit n) s).2.repository = s.repository := by
          have hr := repository_step (.commit n) s
          rwa [hreply] at hr
        rw [hsame] at hnext
        exact hnext
      | ok _ =>
        obtain ⟨t, hs, hv, hr⟩ := UnitOfWork.commit_eq_ok hreply
        have htable : (step (.commit n) s).2.repository.table = t := congrArg Repository.table hr
        rw [htable] at hnext
        exact ((h n t hs).2 hv.symm).append hnext
    | rollback n =>
      exact ih (h.step (.rollback n) (by simp) (fun _ _ _ _ _ hr => hr) (by simp))

/-! ### Leaving a unit out -/

/-- Two sessions with the same repository and the same units except one. -/
structure Same (n : Nat) (s s' : Session) : Prop where
  repository : s.repository = s'.repository
  length : s.units.length = s'.units.length
  unit {m : Nat} : m ≠ n → s.unit m = s'.unit m

theorem Same.refl (n : Nat) (s : Session) : Same n s s := ⟨rfl, rfl, fun _ => rfl⟩

/-- A call on the unit itself keeps the sessions the same if it does not change the repository. -/
theorem Same.step_left {n : Nat} {s s' : Session} (h : Same n s s') {e : Event}
    (he : e.concerns n = true) (hc : e.changes (step e s).1 = false) : Same n (step e s).2 s' := by
  have hr := repository_step e s
  rw [if_neg (by simp [hc])] at hr
  refine ⟨hr.trans h.repository, ?_, fun {m} hm => ?_⟩
  · rw [← h.length]
    cases e with
    | direct c => cases he
    | begin => cases he
    | _ => exact List.length_set
  · rw [← h.unit hm]
    refine unit_step_of_not_concerns (fun hb => by rw [hb] at he; cases he) ?_
    cases e with
    | direct c => rfl
    | begin => rfl
    | _ =>
      simp only [Event.concerns, decide_eq_true_eq] at he
      simp [Event.concerns, he, Ne.symm hm]

theorem Same.withUnit {n m : Nat} {s s' : Session} (h : Same n s s') (w : UnitOfWork) :
    Same n (s.withUnit m w) (s'.withUnit m w) := by
  refine ⟨h.repository, ?_, fun {k} hk => ?_⟩
  · show (s.units.set m w).length = (s'.units.set m w).length
    rw [List.length_set, List.length_set, h.length]
  · rw [unit_withUnit, unit_withUnit, h.length, h.unit hk]

/-- Any other event is answered alike in both sessions and keeps them the same. -/
theorem Same.step {n : Nat} {s s' : Session} (h : Same n s s') {e : Event}
    (he : e.concerns n = false) :
    (Session.step e s).1 = (Session.step e s').1 ∧
      Same n (Session.step e s).2 (Session.step e s').2 := by
  cases e with
  | direct c =>
    show (s.repository.run c).1 = (s'.repository.run c).1 ∧ _
    rw [h.repository]
    refine ⟨rfl, ?_, h.length, h.unit⟩
    show (s.repository.run c).2 = (s'.repository.run c).2
    rw [h.repository]
  | begin =>
    refine ⟨h.length, h.repository, ?_, fun {m} hm => ?_⟩
    · show (s.units ++ [_]).length = (s'.units ++ [_]).length
      rw [List.length_append, List.length_append, h.length]
      rfl
    · rw [unit_begin, unit_begin, h.length, h.repository, h.unit hm]
  | staged m c =>
    have hm : m ≠ n := by simpa [Event.concerns] using he
    simp only [Session.step, h.unit hm]
    exact ⟨trivial, h.withUnit _⟩
  | commit m =>
    have hm : m ≠ n := by simpa [Event.concerns] using he
    simp only [Session.step, h.unit hm, h.repository]
    exact ⟨trivial, rfl, (h.withUnit _).length, (h.withUnit _).unit⟩
  | rollback m =>
    have hm : m ≠ n := by simpa [Event.concerns] using he
    simp only [Session.step, h.unit hm]
    exact ⟨trivial, h.withUnit _⟩

/-- Without the calls on a unit that is never committed, everything else is as it was. -/
theorem run_without (n : Nat) (events : List Event) {s s' : Session} (h : Same n s s')
    (hc : (⟨.commit n, .ok ()⟩ : (e : Event) × e.Reply) ∉ log events s) :
    (run events s).repository = (run (events.filter fun e => !e.concerns n) s').repository ∧
      log (events.filter fun e => !e.concerns n) s' =
        (log events s).filter fun entry => !entry.1.concerns n := by
  induction events generalizing s s' with
  | nil => exact ⟨h.repository, rfl⟩
  | cons e events ih =>
    have hc' : (⟨.commit n, .ok ()⟩ : (e : Event) × e.Reply) ∉ log events (step e s).2 :=
      fun hm => hc (List.mem_cons_of_mem _ hm)
    cases he : e.concerns n with
    | true =>
      have hchanges : e.changes (step e s).1 = false :=
        Event.changes_eq_false he fun hm => hc (hm ▸ List.mem_cons_self)
      obtain ⟨hr, hl⟩ := ih (h.step_left he hchanges) hc'
      rw [List.filter_cons_of_neg (by simp [he])]
      refine ⟨hr, hl.trans ?_⟩
      show _ = List.filter _ (⟨e, (step e s).1⟩ :: log events (step e s).2)
      rw [List.filter_cons_of_neg (by simp [he])]
    | false =>
      obtain ⟨hreply, hsame⟩ := h.step he
      obtain ⟨hr, hl⟩ := ih hsame hc'
      rw [List.filter_cons_of_pos (by simp [he])]
      refine ⟨hr, ?_⟩
      show ⟨e, (step e s').1⟩ :: log _ (step e s').2 =
        List.filter _ (⟨e, (step e s).1⟩ :: log events (step e s).2)
      rw [List.filter_cons_of_pos (by simp [he]), hl, hreply]

/-! ### After the end of a unit -/

theorem Finished.after {n : Nat} {s : Session} (h : Finished n s) (events : List Event) :
    Finished n (run events s) :=
  Program.after_induction (fun e _ hs => hs.step e) h events

/-- **Units of work are serializable.**  For every interleaving of direct calls and of the calls,
commits and rollbacks of any number of units: the serial run gives all its calls the same answers and
leaves the same table; the calls on a unit that is never committed could be left out without a trace;
and once a unit was committed or rolled back, it refuses everything and changes nothing. -/
theorem interleaving_serializable (r : Repository) (events : List Event) :
    (Program.answers Repository.handle
          ((serialOrder (log events (ofRepository r))).map Sigma.fst) r =
        serialOrder (log events (ofRepository r)) ∧
      (Program.after Repository.handle
          ((serialOrder (log events (ofRepository r))).map Sigma.fst) r).table =
        (run events (ofRepository r)).repository.table) ∧
    (∀ n, ⟨.commit n, .ok ()⟩ ∉ log events (ofRepository r) →
      (run events (ofRepository r)).repository =
          (run (events.filter fun e => !e.concerns n) (ofRepository r)).repository ∧
        log (events.filter fun e => !e.concerns n) (ofRepository r) =
          (log events (ofRepository r)).filter fun entry => !entry.1.concerns n) ∧
    (∀ n before e between e' rest, events = before ++ e :: between ++ e' :: rest →
      n < (run before (ofRepository r)).units.length → e.ends n = true → e'.concerns n = true →
        Refused e' (step e' (run (before ++ e :: between) (ofRepository r))).1 ∧
          (step e' (run (before ++ e :: between) (ofRepository r))).2 =
            run (before ++ e :: between) (ofRepository r)) := by
  refine ⟨?_, ?_, ?_⟩
  · obtain ⟨ha, hs⟩ := replays_serialFrom events
      (tracks_ofRepository (fun _ => Replays []) r)
    obtain ⟨ha', hs'⟩ := answers_repository
      ((serialOrder (log events (ofRepository r))).map Sigma.fst) r
    exact ⟨ha'.trans ha, hs'.trans hs⟩
  · intro n hc
    exact run_without n events (Same.refl n _) hc
  · intro n before e between e' rest _ hn he he'
    have hfinished : Finished n (run (before ++ e :: between) (ofRepository r)) := by
      show Finished n (Program.after step (before ++ e :: between) (ofRepository r))
      rw [Program.after_append]
      exact (finished_of_ends hn he).after between
    exact hfinished.refused he'

end Session

end Roster.Store
