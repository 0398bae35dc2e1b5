import Mathlib.Data.List.Induction
import Roster.Proofs.Service.Changes
import Roster.Proofs.Service.NormalRequests

/-!
# Two changes of one user

Two requests change one user side by side, one the name and the other the address. Each writes back the
whole record that it has loaded, and nothing is compared when it is written: where both have loaded the
record before either has written, the later one puts back what the earlier one has changed.

* `tableAt_quiet` says that the table stays as it is over steps that write nothing.
* `second_write` says what two requests leave behind, given which of them has written first.
* `two_changes_outcome` says when both changes stand, and what stands otherwise; `rename_undone` is a run
  in which they do not.
-/

namespace Roster.Service

open Roster.Store Roster.Time Program

/-! ### Which steps write -/

/-- Whether a step can change the table. -/
def StoreAct.writes : StoreAct → Bool
  | .call (.save _) => true
  | .call (.update _) => true
  | .call (.delete ..) => true
  | _ => false

/-- Whether a step looks up a user. -/
def StoreAct.loads : StoreAct → Bool
  | .call (.find _) => true
  | _ => false

theorem TableStep.quiet {t t' : Table} {act : StoreAct} (h : TableStep t act t')
    (hquiet : act.writes = false) : t' = t := by
  cases h with
  | same => rfl
  | saved _ => cases hquiet
  | updated _ => cases hquiet
  | deleted _ => cases hquiet

/-- The table stays as it is over steps that write nothing. -/
theorem tableAt_quiet {w : World Repository} {log later : List StoreStep} (hlog : log <+: later)
    (hquiet : ∀ early step, log <+: early → early ++ [step] <+: later → step.action.writes = false) :
    tableAt w later = tableAt w log := by
  obtain ⟨more, rfl⟩ := hlog
  induction more using List.reverseRecOn with
  | nil => rw [List.append_nil]
  | append_singleton more step ih =>
    have hprefix : log ++ more <+: log ++ (more ++ [step]) := by
      rw [← List.append_assoc]
      exact List.prefix_append _ _
    have hlast := hquiet (log ++ more) step (List.prefix_append _ _) (by simp)
    rw [← List.append_assoc, (tableAt_concat w (log ++ more) step).quiet hlast]
    exact ih fun early step hearly hstep => hquiet early step hearly (hstep.trans hprefix)

/-- Of the steps that count, one that writes is at most `k` and any other at most `l`; that a stamp is
drawn does not count. -/
structure Weighs (counts : StoreAct → Bool) (l k : Nat) : Prop where
  newUser : counts .newUser = false
  changeMoment : counts .changeMoment = false
  deletionMoment : counts .deletionMoment = false
  reads (act : StoreAct) : act.writes = false → (counts act).toNat ≤ l
  writes (act : StoreAct) : act.writes = true → (counts act).toNat ≤ k

section Weighs

variable {counts : StoreAct → Bool} {l k : Nat}

theorem stamp_counts {act : StoreAct} (h : counts act = false) :
    (take (R := StoreAct.Reply) act).AtMost counts 0 :=
  (atMost_take _).mono (by rw [h]; exact Nat.le_refl 0)

variable (h : Weighs counts l k)

include h

theorem Weighs.write {c : Call} (hc : (StoreAct.call c).writes = true) : (call c).AtMost counts k :=
  (atMost_take _).mono (h.writes _ hc)

theorem Weighs.load (id : UserId) : (load id).AtMost counts l := by
  refine ((atMost_take _).mono (h.reads _ rfl)).bind (n := 0) fun reply => ?_
  rcases reply with e | u
  · exact trivial
  · cases u <;> exact trivial

theorem Weighs.saveNew (name : String) (email : Email) : (saveNew name email).AtMost counts k := by
  have hsave : (Service.saveNew name email).AtMost counts (0 + k) :=
    (stamp_counts h.newUser).bind fun _ => h.write rfl
  rwa [Nat.zero_add] at hsave

theorem Weighs.saveChanged (u : User) (name : Option String) (email : Option Email) :
    (saveChanged u name email).AtMost counts k := by
  have hamend : ∀ f : Timestamp → User, (do
      let now ← take StoreAct.changeMoment
      call (.update (f now)) : StoreProgram (Except Failure User)).AtMost counts (0 + k) :=
    fun _ => (stamp_counts h.changeMoment).bind fun _ => h.write rfl
  rw [Nat.zero_add] at hamend
  simp only [Service.saveChanged]
  split
  · exact h.write rfl
  · exact hamend _

/-- An operation takes at most one step that writes, and at most one that reads before that. -/
theorem Weighs.operate (op : Operation) : (operate op).AtMost counts (l + k) := by
  have hk : k ≤ l + k := Nat.le_add_left k l
  cases op with
  | create r =>
    show (createUser r).AtMost counts (l + k)
    simp only [createUser]
    split
    · exact trivial
    · exact (h.saveNew _ _).mono hk
  | get id => exact (h.load id).mono (Nat.le_add_right l k)
  | update id r =>
    show (updateUser id r).AtMost counts (l + k)
    simp only [updateUser]
    split
    · exact trivial
    · refine (h.load id).bind fun reply => ?_
      rcases reply with e | u
      · exact trivial
      · dsimp only
        split
        · exact trivial
        · exact h.saveChanged u _ _
  | delete id =>
    refine ((stamp_counts h.deletionMoment).bind fun now => ?_).mono
      (Nat.le_of_eq (Nat.zero_add (l + k)))
    refine ((h.write (c := .delete id now) rfl).bind (n := 0) fun reply => ?_).mono hk
    rcases reply with e | found
    · exact trivial
    · cases found <;> exact trivial
  | list r => exact (atMost_take _).mono (Nat.le_trans (h.reads _ rfl) (Nat.le_add_right l k))

end Weighs

theorem operate_writes_once (op : Operation) : (operate op).AtMost StoreAct.writes 1 := by
  have h : Weighs StoreAct.writes 0 1 :=
    ⟨rfl, rfl, rfl, fun act h => by rw [h]; exact Nat.le_refl 0, fun _ _ => Bool.toNat_le _⟩
  exact h.operate op

theorem operate_loads_once (op : Operation) : (operate op).AtMost StoreAct.loads 1 := by
  have h : Weighs StoreAct.loads 1 0 := by
    refine ⟨rfl, rfl, rfl, fun _ _ => Bool.toNat_le _, fun act hact => ?_⟩
    rcases act with c | _ | _ | _
    · cases c <;> first | exact Nat.le_refl 0 | cases hact
    all_goals exact Nat.le_refl 0
  exact h.operate op

/-! ### Two writes -/

section Writes

variable {w : World Repository} {id : UserId} {v : User}

/-- The record that a change has written is in the table, and live if the one that was loaded is. -/
theorem find?_of_update {who : Nat} {log : List StoreStep} {name : Option String}
    {email : Option Email} {loaded u : User} (hid : u.id = id) (hamends : Amends name email loaded u)
    (hlive : loaded.isLive = true)
    (hok : (tableBacking.handle (.call (.update u)) (reached tableBacking.handle w log)).1 = .ok u) :
    (tableAt w (log ++ [stepOf tableBacking.handle w log who (.call (.update u))])).find? id =
      some u := by
  obtain ⟨-, -, hstore⟩ := run_update_ok hok
  have htable : tableAt w (log ++ [stepOf tableBacking.handle w log who (.call (.update u))]) =
      Keyed.put (tableAt w log) u.id u := by
    simp only [tableAt, reached_snoc]
    exact congrArg Repository.table hstore
  have hwritten : u.isLive = true := by
    simp only [User.isLive] at hlive ⊢
    rw [hamends.deletedAt, hlive]
  rw [htable, Table.find?_put, if_pos hid]
  simp [Option.filter, hwritten]

/-- The two steps of a change: after the log `loaded` it has found a record, and after the log `written`
it has written this user. -/
structure ChangeSteps (w : World Repository) (who : Nat) (id : UserId) (u found : User)
    (loaded written : List StoreStep) : Prop where
  id_eq : u.id = id
  find : (tableAt w loaded).find? id = some found
  loads : loaded ++ [stepOf tableBacking.handle w loaded who (.call (.find id))] <+: written
  ok : (tableBacking.handle (.call (.update u)) (reached tableBacking.handle w written)).1 = .ok u

/-- The step with which a change writes. -/
abbrev writeStep (w : World Repository) (who : Nat) (u : User) (written : List StoreStep) : StoreStep :=
  stepOf tableBacking.handle w written who (.call (.update u))

/-- Where two changes are all that is written, the first has loaded the user as it was at the start, and
what the second has written is left. The second has loaded what the first has written if it loaded the
user after that, and otherwise the user as it was at the start. -/
theorem second_write {a b : Nat} {ua ub va vb : User} {na nb : Option String} {ea eb : Option Email}
    {loadedA writtenA loadedB writtenB log : List StoreStep}
    (hv : w.store.table.find? id = some v)
    (hfirst : ChangeSteps w a id ua va loadedA writtenA) (hamendsA : Amends na ea va ua)
    (hsecond : ChangeSteps w b id ub vb loadedB writtenB) (hamendsB : Amends nb eb vb ub)
    (horder : writtenA ++ [writeStep w a ua writtenA] <+: writtenB)
    (hlog : writtenB ++ [writeStep w b ub writtenB] <+: log)
    (honly : ∀ early step, early ++ [step] <+: log → step.action.writes = true →
      early = writtenA ∨ early = writtenB) :
    va = v ∧ (tableAt w log).find? id = some ub ∧
      (writtenA ++ [writeStep w a ua writtenA] <+: loadedB ∧ vb = ua ∨
        loadedB <+: writtenA ∧ vb = v) := by
  have hB : writtenB <+: log := (List.prefix_append _ _).trans hlog
  have hlengthA := horder.length_le
  have hlengthB := hlog.length_le
  simp only [List.length_append, List.length_singleton] at hlengthA hlengthB
  -- nothing is written outside of the two moments
  have hquiet : ∀ since till : List StoreStep, since <+: till → till <+: log →
      (writtenA.length < since.length ∨ till.length ≤ writtenA.length) →
      (writtenB.length < since.length ∨ till.length ≤ writtenB.length) →
      tableAt w till = tableAt w since := by
    intro since till hsince htill hA hB
    refine tableAt_quiet hsince fun early step hearly hstep => ?_
    refine Bool.eq_false_iff.2 fun hwrites => ?_
    have hle := hearly.length_le
    have hle' := hstep.length_le
    rw [List.length_append, List.length_singleton] at hle'
    rcases honly early step (hstep.trans htill) hwrites with rfl | rfl <;> omega
  have hstart : ∀ {early : List StoreStep}, early <+: writtenA → (tableAt w early).find? id = some v := by
    intro early hearly
    have hle := hearly.length_le
    have hsame := hquiet [] early List.nil_prefix
      (hearly.trans ((List.prefix_append _ _).trans (horder.trans hB)))
      (Or.inr hle) (Or.inr (by omega))
    rw [hsame]
    exact hv
  have hloadedA : loadedA <+: writtenA := (List.prefix_append _ _).trans hfirst.loads
  have hva : va = v := Option.some.inj (hfirst.find.symm.trans (hstart hloadedA))
  have hlive : ∀ {t : Table} {u : User}, t.find? id = some u → u.isLive = true :=
    fun h => (Table.find?_eq_some.1 h).2
  refine ⟨hva, ?_, ?_⟩
  · have hleft := hquiet _ _ hlog (List.prefix_refl _) (Or.inl (by simp; omega)) (Or.inl (by simp))
    rw [hleft]
    exact find?_of_update hsecond.id_eq hamendsB (hlive hsecond.find) hsecond.ok
  · have hloadedB : loadedB <+: writtenB := (List.prefix_append _ _).trans hsecond.loads
    rcases List.prefix_or_prefix_of_prefix hloadedB horder with hbefore | hafter
    · rcases List.prefix_concat_iff.1 hbefore with heq | hbefore
      · refine Or.inl ⟨heq ▸ List.prefix_refl _, ?_⟩
        have hfound := hsecond.find
        rw [heq, find?_of_update hfirst.id_eq hamendsA (hlive hfirst.find) hfirst.ok] at hfound
        exact (Option.some.inj hfound).symm
      · exact Or.inr ⟨hbefore, Option.some.inj (hsecond.find.symm.trans (hstart hbefore))⟩
    · refine Or.inl ⟨hafter, ?_⟩
      have hfound := hsecond.find
      have hle := hloadedB.length_le
      rw [hquiet _ _ hafter (hloadedB.trans hB) (Or.inl (by simp)) (Or.inr hle),
        find?_of_update hfirst.id_eq hamendsA (hlive hfirst.find) hfirst.ok] at hfound
      exact (Option.some.inj hfound).symm

/-- When the request loaded the user, the other one had written. -/
def LoadedAfter (w : World Repository) (id : UserId) (who other : Nat) (log : List StoreStep) : Prop :=
  ∃ early step, early ++ [stepOf tableBacking.handle w early who (.call (.find id))] <+: log ∧
    step ∈ early ∧ step.who = other ∧ step.action.writes = true

theorem loadedAfter_iff {who other : Nat} {u uo found : User}
    {loaded written writtenO log : List StoreStep}
    (hsteps : ChangeSteps w who id u found loaded written) (hlog : written <+: log)
    (hother : writtenO ++ [writeStep w other uo writtenO] <+: log)
    (hloads : Crowd.stepsOf StoreAct.loads who log ≤ 1)
    (hwrites : Crowd.stepsOf StoreAct.writes other log ≤ 1) :
    LoadedAfter w id who other log ↔ writtenO ++ [writeStep w other uo writtenO] <+: loaded := by
  have hwritten : ((writeStep w other uo writtenO).who = other &&
      (writeStep w other uo writtenO).action.writes) = true := by simp [stepOf, StoreAct.writes]
  have hfound : ∀ log, ((stepOf tableBacking.handle w log who (.call (.find id))).who = who &&
      StoreAct.loads (stepOf tableBacking.handle w log who (.call (.find id))).action) = true := by
    intro log
    simp [stepOf, StoreAct.loads]
  constructor
  · rintro ⟨early, step, hearly, hstep, rfl, hact⟩
    have hmoment := Crowd.eq_of_stepsOf_le_one hloads hearly (hfound _) (hsteps.loads.trans hlog)
      (hfound _)
    obtain ⟨before, rest, rfl⟩ := List.append_of_mem hstep
    have hbefore : before ++ [step] <+: before ++ step :: rest := by simp
    have hin := hbefore.trans ((List.prefix_append _ _).trans hearly)
    obtain rfl := Crowd.eq_of_stepsOf_le_one hwrites hin (by simp [hact]) hother hwritten
    have hsame : before ++ [step] = before ++ [writeStep w step.who uo before] :=
      List.IsPrefix.eq_of_length (List.prefix_of_prefix_length_le hin hother (by simp)) (by simp)
    rw [← hmoment, ← hsame]
    exact hbefore
  · intro hbefore
    exact ⟨loaded, writeStep w other uo writtenO, hsteps.loads.trans hlog, hbefore.subset (by simp),
      rfl, rfl⟩

end Writes

/-! ### Two requests -/

theorem Changed.steps {w : World Repository} {who : Nat} {id : UserId} {r : UpdateRequest} {u : User}
    {log : List StoreStep} (h : Changed w who id r u log) :
    ∃ name email found loaded written, normalChanges r = .ok (name, email) ∧
      Amends name email found u ∧ ChangeSteps w who id u found loaded written ∧
      written ++ [writeStep w who u written] <+: log := by
  obtain ⟨hid, name, email, written, hnormal, ⟨loaded, found, hfind, hamends, hloads⟩, hok, hlog⟩ := h
  rw [hid] at hfind hloads
  exact ⟨name, email, found, loaded, written, hnormal, hamends, ⟨hid, hfind, hloads, hok⟩, hlog⟩

/-- Of two requests that are all there are, one takes every step that writes. -/
theorem who_of_writes {w : World Repository} {moves : List (Move Operation)}
    (htwo : (abreast moves w).errands.length = 2) {a b : Nat} (ha : a < 2) (hb : b < 2) (hab : a ≠ b)
    {step : StoreStep} (hstep : step ∈ (abreast moves w).log) (hwrites : step.action.writes = true) :
    step.who = a ∨ step.who = b := by
  have hlimited := ((Crowd.Limited.start StoreAct.writes 1 w).run operate tableBacking.handle
    operate_writes_once moves) step.who
  have hcame : step.who < 2 := by
    refine Nat.lt_of_not_le fun hge => ?_
    have hnone := hlimited.1 (List.getElem?_eq_none (htwo ▸ hge))
    have hnot := List.countP_eq_zero.1 hnone step hstep
    simp [hwrites] at hnot
  omega

theorem normalChanges_name {name : String} {n : Option String} {e : Option Email}
    (h : normalChanges ⟨some name, none⟩ = .ok (n, e)) :
    ∃ newName, normalName name = .ok newName ∧ n = some newName ∧ e = none := by
  obtain ⟨hname, hnone⟩ := normalChanges_steps.1 h
  obtain ⟨newName, hnew, rfl⟩ := mapM_some_eq_ok.1 hname
  cases hnone
  exact ⟨newName, hnew, rfl, rfl⟩

theorem normalChanges_email {email : String} {n : Option String} {e : Option Email}
    (h : normalChanges ⟨none, some email⟩ = .ok (n, e)) :
    ∃ newEmail, normalEmail email = .ok newEmail ∧ n = none ∧ e = some newEmail := by
  obtain ⟨hnone, hemail⟩ := normalChanges_steps.1 h
  obtain ⟨newEmail, hnew, rfl⟩ := mapM_some_eq_ok.1 hemail
  cases hnone
  exact ⟨newEmail, hnew, rfl, rfl⟩

/-- Two changes of one user that are all there is: the second writer has loaded either what the first
has written or what was there at the start, and what it has written is left. -/
theorem second_change {w : World Repository} {moves : List (Move Operation)} {a b : Nat}
    {id : UserId} {v ua ub va vb : User} {na nb : Option String} {ea eb : Option Email}
    {loadedA writtenA loadedB writtenB : List StoreStep}
    (htwo : (abreast moves w).errands.length = 2) (ha : a < 2) (hb : b < 2) (hab : a ≠ b)
    (hv : w.store.table.find? id = some v)
    (hfirst : ChangeSteps w a id ua va loadedA writtenA) (hamendsA : Amends na ea va ua)
    (hsecond : ChangeSteps w b id ub vb loadedB writtenB) (hamendsB : Amends nb eb vb ub)
    (horder : writtenA ++ [writeStep w a ua writtenA] <+: writtenB)
    (hlog : writtenB ++ [writeStep w b ub writtenB] <+: (abreast moves w).log) :
    va = v ∧ (tableAt w (abreast moves w).log).find? id = some ub ∧
      ¬ LoadedAfter w id a b (abreast moves w).log ∧
      (LoadedAfter w id b a (abreast moves w).log ∧ vb = ua ∨
        ¬ LoadedAfter w id b a (abreast moves w).log ∧ vb = v) := by
  have hwrites := fun who => ((Crowd.Limited.start StoreAct.writes 1 w).run operate
    tableBacking.handle operate_writes_once moves).stepsOf_le who
  have hloads := fun who => ((Crowd.Limited.start StoreAct.loads 1 w).run operate
    tableBacking.handle operate_loads_once moves).stepsOf_le who
  have hB : writtenB <+: (abreast moves w).log := (List.prefix_append _ _).trans hlog
  have hA := horder.trans hB
  have hwritten : ∀ who u log, ((writeStep w who u log).who = who &&
      (writeStep w who u log).action.writes) = true := by
    intro who u log
    simp [stepOf, StoreAct.writes]
  have honly : ∀ early step, early ++ [step] <+: (abreast moves w).log → step.action.writes = true →
      early = writtenA ∨ early = writtenB := by
    intro early step hearly hact
    rcases who_of_writes htwo ha hb hab (hearly.subset (by simp)) hact with hwho | hwho
    · exact Or.inl (Crowd.eq_of_stepsOf_le_one (hwrites a) hearly (by simp [hwho, hact]) hA
        (hwritten a ua _))
    · exact Or.inr (Crowd.eq_of_stepsOf_le_one (hwrites b) hearly (by simp [hwho, hact]) hlog
        (hwritten b ub _))
  obtain ⟨hva, hleft, hloaded⟩ :=
    second_write hv hfirst hamendsA hsecond hamendsB horder hlog honly
  have hafter := loadedAfter_iff hsecond hB hA (hloads b) (hwrites a)
  have hbefore := loadedAfter_iff hfirst ((List.prefix_append _ _).trans hA) hlog (hloads a) (hwrites b)
  have hlengths : ∀ {xs ys : List StoreStep} {x : StoreStep}, xs ++ [x] <+: ys → xs.length < ys.length := by
    intro xs ys x h
    have hle := h.length_le
    rw [List.length_append, List.length_singleton] at hle
    omega
  have hloadedA := hlengths hfirst.loads
  have hwrittenA := hlengths horder
  refine ⟨hva, hleft, fun h => ?_, ?_⟩
  · have hlast := hlengths (hbefore.1 h)
    omega
  · rcases hloaded with ⟨hsaw, hvb⟩ | ⟨hmissed, hvb⟩
    · exact Or.inl ⟨hafter.2 hsaw, hvb⟩
    · refine Or.inr ⟨fun h => ?_, hvb⟩
      have hlast := hlengths (hafter.1 h)
      have hle := hmissed.length_le
      omega

/-- Of two requests that are all there are, one changes the name of a user, the other the address, and
both succeed. Both changes stand if one of them has loaded the user after the other one had written.
Otherwise only the one that was written last stands, and the other field is what it was at the start. -/
theorem two_changes_outcome {w : World Repository} (hsound : w.store.table.Sound)
    {moves : List (Move Operation)} (htwo : (abreast moves w).errands.length = 2) {i j : Nat}
    {id : UserId} {v : User} (hv : w.store.table.find? id = some v) {name email : String} {ui uj : User}
    (hi : (abreast moves w).answer? i = some ⟨.update id ⟨some name, none⟩, .ok ui⟩)
    (hj : (abreast moves w).answer? j = some ⟨.update id ⟨none, some email⟩, .ok uj⟩) :
    ∃ newName newEmail u, normalName name = .ok newName ∧ normalEmail email = .ok newEmail ∧
      (abreast moves w).state.store.table.find? id = some u ∧
      ((LoadedAfter w id i j (abreast moves w).log ∨ LoadedAfter w id j i (abreast moves w).log) ∧
          u.name = newName ∧ u.email = newEmail ∨
        ¬ LoadedAfter w id i j (abreast moves w).log ∧ ¬ LoadedAfter w id j i (abreast moves w).log ∧
          (u = ui ∧ u.name = newName ∧ u.email = v.email ∨
            u = uj ∧ u.name = v.name ∧ u.email = newEmail)) := by
  have horderly := abreast_orderly hsound moves
  have hless : ∀ {who : Nat} {a : (op : Operation) × op.Reply},
      (abreast moves w).answer? who = some a → who < 2 := by
    intro who a ha
    obtain ⟨e, he, -⟩ := Option.bind_eq_some_iff.1 ha
    exact htwo ▸ (List.getElem?_eq_some_iff.1 he).1
  have hij : i ≠ j := by
    rintro rfl
    rw [hi] at hj
    cases hj
  obtain ⟨-, -, -, hchangedI⟩ := horderly.post_of_answer hi
  obtain ⟨-, -, -, hchangedJ⟩ := horderly.post_of_answer hj
  obtain ⟨ni, ei, vi, loadedI, writtenI, hnormalI, hamendsI, hstepsI, hlogI⟩ := Changed.steps hchangedI
  obtain ⟨nj, ej, vj, loadedJ, writtenJ, hnormalJ, hamendsJ, hstepsJ, hlogJ⟩ := Changed.steps hchangedJ
  obtain ⟨newName, hname, rfl, rfl⟩ := normalChanges_name hnormalI
  obtain ⟨newEmail, hemail, rfl, rfl⟩ := normalChanges_email hnormalJ
  rw [horderly.state]
  refine ⟨newName, newEmail, ?_⟩
  have horder : writtenI ++ [writeStep w i ui writtenI] <+: writtenJ ∨
      writtenJ ++ [writeStep w j uj writtenJ] <+: writtenI := by
    have hapart : writtenI ++ [writeStep w i ui writtenI] ≠ writtenJ ++ [writeStep w j uj writtenJ] := by
      intro heq
      have hlast := List.singleton_inj.1 (List.append_inj' heq rfl).2
      exact hij (congrArg Step.who hlast)
    rcases List.prefix_or_prefix_of_prefix hlogI hlogJ with hfirst | hfirst
    · exact Or.inl ((List.prefix_concat_iff.1 hfirst).resolve_left hapart)
    · exact Or.inr ((List.prefix_concat_iff.1 hfirst).resolve_left hapart.symm)
  rcases horder with horder | horder
  · obtain ⟨rfl, hleft, hnot, hcase⟩ := second_change htwo (hless hi) (hless hj) hij hv hstepsI hamendsI
      hstepsJ hamendsJ horder hlogJ
    refine ⟨uj, hname, hemail, hleft, ?_⟩
    rcases hcase with ⟨hafter, rfl⟩ | ⟨hmissed, rfl⟩
    · exact Or.inl ⟨Or.inr hafter, hamendsJ.name.trans hamendsI.name, hamendsJ.email⟩
    · exact Or.inr ⟨hnot, hmissed, Or.inr ⟨rfl, hamendsJ.name, hamendsJ.email⟩⟩
  · obtain ⟨rfl, hleft, hnot, hcase⟩ := second_change htwo (hless hj) (hless hi) hij.symm hv hstepsJ
      hamendsJ hstepsI hamendsI horder hlogI
    refine ⟨ui, hname, hemail, hleft, ?_⟩
    rcases hcase with ⟨hafter, rfl⟩ | ⟨hmissed, rfl⟩
    · exact Or.inl ⟨Or.inl hafter, hamendsI.name, hamendsI.email.trans hamendsJ.email⟩
    · exact Or.inr ⟨hmissed, hnot, Or.inl ⟨rfl, hamendsI.name, hamendsI.email⟩⟩

/-! ### A run -/

/-- The user of the trial. -/
def changedUser : UserId := .inSeries 0

/-- The state that the trial starts from: there is one user. -/
def oneUser : World Repository :=
  ((base tableBacking).run (.create ⟨"Ada", "ada@x.com"⟩) ⟨.empty, .still⟩).2

/-- Two requests to change the user: both find the record, then each writes. -/
def crossingChanges : List (Move Operation) :=
  [.come (.update changedUser ⟨some "Eve", none⟩),
    .come (.update changedUser ⟨none, some "eve@x.com"⟩),
    .turn 0, .turn 1, .turn 0, .turn 0, .turn 1, .turn 1]

/-- The same requests one after the other. -/
def separateChanges : List (Move Operation) :=
  .come (.update changedUser ⟨some "Eve", none⟩) :: List.replicate 3 (.turn 0) ++
    .come (.update changedUser ⟨none, some "eve@x.com"⟩) :: List.replicate 3 (.turn 1)

theorem two_changes_outcome_in_trial :
    ∃ u, (abreast separateChanges oneUser).state.store.table.find? changedUser = some u ∧
      u.name = "Eve" ∧ u.email.text = "eve@x.com" ∧
      (LoadedAfter oneUser changedUser 0 1 (abreast separateChanges oneUser).log ∨
        LoadedAfter oneUser changedUser 1 0 (abreast separateChanges oneUser).log) := by
  have hsound : oneUser.store.table.Sound := base_sound Table.sound_nil _
  have hleft : ((abreast separateChanges oneUser).state.store.table.find? changedUser).map
      (fun u => (u.name, u.email.text)) = some ("Eve", "eve@x.com") := by decide +kernel
  obtain ⟨newName, newEmail, u, -, -, hu, hcase⟩ := @two_changes_outcome oneUser hsound
    separateChanges rfl 0 1 changedUser _ rfl "Eve" "eve@x.com" _ _ rfl rfl
  rw [hu] at hleft
  obtain ⟨hname, hemail⟩ := Prod.mk.inj (Option.some.inj hleft)
  refine ⟨u, hu, hname, hemail, ?_⟩
  rcases hcase with ⟨hafter, -⟩ | ⟨-, -, ⟨-, -, hold⟩ | ⟨-, hold, -⟩⟩
  · exact hafter
  · rw [hold] at hemail
    exact absurd hemail (by decide +kernel)
  · rw [hold] at hname
    exact absurd hname (by decide +kernel)

/-- Two requests find a user and then write, one another name, the other another address. Both succeed,
and the user has the old name again. -/
theorem rename_undone :
    (∃ u, oneUser.store.table.find? changedUser = some u ∧ u.name = "Ada") ∧
      (∃ u, (abreast crossingChanges oneUser).answer? 0 =
        some ⟨.update changedUser ⟨some "Eve", none⟩, .ok u⟩) ∧
      (∃ u, (abreast crossingChanges oneUser).answer? 1 =
        some ⟨.update changedUser ⟨none, some "eve@x.com"⟩, .ok u⟩) ∧
      ∃ u, (abreast crossingChanges oneUser).state.store.table.find? changedUser = some u ∧
        u.name = "Ada" ∧ u.email.text = "eve@x.com" :=
  ⟨⟨_, rfl, rfl⟩, ⟨_, rfl⟩, ⟨_, rfl⟩, _, rfl, rfl, rfl⟩

end Roster.Service
