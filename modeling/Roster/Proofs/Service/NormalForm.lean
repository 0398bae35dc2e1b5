import Roster.Proofs.Service.Changes
import Roster.Proofs.Service.NormalRequests
import Roster.Proofs.Text.Trimming

/-!
# Users in normal form

Names are stored without blanks around them and addresses in lower case, whatever was typed. Requests
come side by side and write what they have loaded before; even so, every record stays in normal form and
keeps the moment of its creation.

* `NormalName` are the names that are stored. `rows_normal` says that every stored name is one of them.
* `createdAt_kept` says that a record keeps the moment of its creation.
* `stored_users_normal` puts it together, for everything that requests can lead to.
-/

namespace Roster.Service

open Roster.Store Roster.Text Roster.Time Program

/-! ### Names -/

/-- A name as it is stored: not blank, without blanks around it, and not too long. -/
structure NormalName (name : String) : Prop where
  written : allBlank name = false
  trimmed : trimmed name = name
  short : name.length ≤ nameLimit

theorem normalName_ok {s name : String} (hshort : s.length ≤ nameLimit)
    (h : normalName s = .ok name) : NormalName name := by
  obtain ⟨hwritten, rfl⟩ := normalName_eq_ok.1 h
  refine ⟨?_, trimmed_trimmed s, ?_⟩
  · simp only [allBlank, trimmed]
    rw [String.toList_ofList, trim_trim]
    exact hwritten
  · have hlength : (trimmed s).length ≤ s.length := by
      simp only [trimmed]
      rw [String.length_ofList, ← String.length_toList]
      exact length_trim_le _
    exact Nat.le_trans hlength hshort

theorem NormalName.normalName {name : String} (h : NormalName name) :
    normalName name = .ok name := by
  simp only [Service.normalName]
  rw [h.written, h.trimmed]
  rfl

/-- A change that passes the checks gives a name in normal form, if any. -/
theorem normalName_of_changes {r : UpdateRequest} (hcheck : r.check = .ok ()) {name : String}
    {email : Option Email} (h : normalChanges r = .ok (some name, email)) : NormalName name := by
  obtain ⟨hname, -⟩ := normalChanges_steps.1 h
  cases hasked : r.name with
  | none =>
    rw [hasked] at hname
    cases hname
  | some asked =>
    rw [hasked] at hname
    obtain ⟨typed, htyped, hsame⟩ := mapM_some_eq_ok.1 hname
    cases hsame
    exact normalName_ok (UpdateRequest.short_of_check hcheck hasked) htyped

/-! ### Rows -/

section Rows

variable {w : World Repository} {log : List StoreStep}

/-- All names in a table are in normal form. -/
def NormalRows (t : Table) : Prop := ∀ id u, Keyed.get? t id = some u → NormalName u.name

/-- Requests keep names in normal form. -/
theorem normalName_kept : Kept fun u => NormalName u.name where
  created hcheck hname _ := normalName_ok (CreateRequest.short_of_check hcheck) hname
  changed {r name email v u} hcheck hnormal hamends hv := by
    rw [hamends.name]
    cases name with
    | none => exact hv
    | some name => exact normalName_of_changes hcheck hnormal
  deleted hu := hu

theorem rows_normal (hstart : NormalRows w.store.table)
    (hlawful : Lawful tableBacking.handle w (Writes w) log) :
    ∀ early, early <+: log → NormalRows (tableAt w early) :=
  rows_kept normalName_kept hstart hlawful

/-- A record keeps the moment of its creation. -/
theorem createdAt_kept (hlawful : Lawful tableBacking.handle w (Writes w) log)
    {early : List StoreStep} (hearly : early <+: log) {id : UserId} {u : User}
    (hu : Keyed.get? (tableAt w early) id = some u) :
    ∃ v, Keyed.get? (tableAt w log) id = some v ∧ v.createdAt = u.createdAt := by
  induction log using List.reverseRecOn generalizing early id u with
  | nil =>
    rw [List.prefix_nil.1 hearly] at hu
    exact ⟨u, hu, rfl⟩
  | append_singleton log step ih =>
    rcases List.prefix_concat_iff.1 hearly with rfl | hbefore
    · exact ⟨u, hu, rfl⟩
    · have hprefix : log <+: log ++ [step] := List.prefix_append _ _
      have hkept := @ih (hlawful.of_prefix hprefix)
      obtain ⟨v, hv, hcreated⟩ := hkept hbefore hu
      have hrule := (hlawful log step (List.prefix_refl _)).2
      have hstep := tableAt_concat w log step
      generalize tableAt w (log ++ [step]) = t at hstep ⊢
      generalize step.action = act at hstep hrule
      cases hstep with
      | same => exact ⟨v, hv, hcreated⟩
      | saved hfree =>
        rw [Keyed.get?_put]
        split
        · rename_i hid
          rw [hid, hv] at hfree
          cases hfree
        · exact ⟨v, hv, hcreated⟩
      | @updated u' v' hfind =>
        rw [Keyed.get?_put]
        split
        · rename_i hid
          -- what was loaded had the moment that the row still has
          obtain ⟨r, name, email, -, -, loaded, v₀, hv₀, hamends, hfound⟩ := hrule
          have hloaded := (List.prefix_append loaded _).trans hfound
          obtain ⟨v₁, hv₁, hsame⟩ := hkept hloaded (Table.find?_eq_some.1 hv₀).1
          rw [hid, hv] at hv₁
          cases hv₁
          exact ⟨u', rfl, hamends.createdAt.trans (hsame.symm.trans hcreated)⟩
        · exact ⟨v, hv, hcreated⟩
      | @deleted id' now v' hfind =>
        rw [Keyed.get?_put]
        split
        · rename_i hid
          have hsame := (Table.find?_eq_some.1 hfind).1
          rw [hid, hv] at hsame
          cases hsame
          exact ⟨v.markDeleted now, rfl, hcreated⟩
        · exact ⟨v, hv, hcreated⟩

end Rows

/-! ### Addresses -/

/-- Live users whose addresses come from texts with one normal form are one. -/
theorem eq_of_normalForm {t : Table} (h : t.Sound) {u v : User} (hu : u ∈ t.live) (hv : v ∈ t.live)
    {a b : String} (ha : Email.ofText a = .ok u.email) (hb : Email.ofText b = .ok v.email)
    (hform : Email.normalForm a = Email.normalForm b) : u = v := by
  have hsame : Email.ofText a = Email.ofText b := by
    simp only [Email.ofText, hform]
  rw [ha, hb] at hsame
  exact h.emails_apart hu hv (Except.ok.inj hsame)

/-! ### Changes that keep the address -/

theorem update_own_email {t : Table} (h : t.Sound) {u v : User} (hv : t.find? v.id = some v)
    (hid : u.id = v.id) (hemail : u.email = v.email) :
    t.update u = .ok (Keyed.put t u.id u) := by
  obtain ⟨hget, hlive⟩ := Table.find?_eq_some.1 hv
  simp only [Table.update]
  rw [hid, hv]
  have hfree : t.live.any (fun o => decide (o.id ≠ v.id) && decide (o.email = u.email)) = false := by
    rw [List.any_eq_false]
    intro o ho htaken
    simp only [Bool.and_eq_true, decide_eq_true_eq] at htaken
    have hsame := h.emails_apart ho (h.mem_live_iff.2 ⟨hget, hlive⟩) (htaken.2.trans hemail)
    exact htaken.1 (congrArg User.id hsame)
  rw [if_neg (by simp), if_neg (by rw [hfree]; simp)]

/-- A change that gives a live user no address but the own one succeeds. -/
theorem change_keeping_email {w : World Repository} (h : w.store.table.Sound) {u : User}
    (hu : w.store.table.find? u.id = some u) {r : UpdateRequest} {name : Option String}
    {email : Option Email} (hcheck : r.check = .ok ()) (hnormal : normalChanges r = .ok (name, email))
    (hown : email.getD u.email = u.email) :
    ((base tableBacking).run (.update u.id r) w).1 = .ok (amended u name email w.stamps.change.1) := by
  obtain ⟨stamps, hrun⟩ := run_saveChanged u name email w
  generalize hv : amended u name email w.stamps.change.1 = v at hrun ⊢
  have hid : v.id = u.id := by rw [← hv]; rfl
  have hemail : v.email = u.email := by rw [← hv]; exact hown
  have hwritten := update_own_email h hu hid hemail
  have hreply : (w.store.run (.update v)).1 = .ok v := by
    simp only [Repository.run, Call.onTable, hwritten]
  show ((updateUser u.id r).run tableBacking.handle w).1 = _
  simp only [updateUser, hcheck]
  rw [Program.run_monad_bind, run_load, hu]
  simp only [hnormal]
  rw [hrun]
  exact hreply

/-- A live user whose name is in normal form can be renamed to it. -/
theorem rename_to_own {w : World Repository} (h : w.store.table.Sound) {u : User}
    (hu : w.store.table.find? u.id = some u) (hname : NormalName u.name) :
    ∃ v, ((base tableBacking).run (.update u.id ⟨some u.name, none⟩) w).1 = .ok v ∧
      v.name = u.name := by
  have hcheck : (⟨some u.name, none⟩ : UpdateRequest).check = .ok () :=
    verdict_eq_ok.2 (checkName_eq_nil.2 hname.short)
  have hnormal : normalChanges ⟨some u.name, none⟩ = .ok (some u.name, none) := by
    simp only [normalChanges, Option.mapM_some, Option.mapM_none, hname.normalName]
    rfl
  exact ⟨_, change_keeping_email h hu hcheck hnormal rfl, rfl⟩

/-! ### All that requests can lead to -/

/-- What requests one after another lead to is among what requests side by side can lead to. -/
theorem exists_moves_one_by_one (ops : List Operation) (w : World Repository) :
    ∃ moves, (abreast moves w).state = after (base tableBacking).run ops w :=
  Crowd.exists_moves_alone operate tableBacking.handle ops (Crowd.start w)

/-- Whatever is asked of an empty repository, one request after another or side by side, the names of
all users are in normal form and their addresses denote themselves, and whatever is asked afterwards, a
user keeps the id and the moment of creation. No two live users have addresses with one normal form, so
none that differ only in blanks around them and in the case of their ASCII letters. A live user can be
renamed to the own name and has it still. -/
theorem stored_users_normal (stamps : Stamps) (moves more : List (Move Operation)) :
    (∀ id u, Keyed.get? (abreast moves ⟨.empty, stamps⟩).state.store.table id = some u →
      u.id = id ∧ allBlank u.name = false ∧ trimmed u.name = u.name ∧ u.name.length ≤ 128 ∧
      Email.ofText u.email.text = .ok u.email ∧
      ∃ v, Keyed.get? (abreast (moves ++ more) ⟨.empty, stamps⟩).state.store.table id = some v ∧
        v.id = u.id ∧ v.createdAt = u.createdAt) ∧
    (∀ u ∈ (abreast moves ⟨.empty, stamps⟩).state.store.table.live,
      ∀ v ∈ (abreast moves ⟨.empty, stamps⟩).state.store.table.live,
        (Email.normalForm u.email.text = Email.normalForm v.email.text → u = v) ∧
        ∀ a b, Email.ofText a = .ok u.email → Email.ofText b = .ok v.email →
          (trim a.toList).map Char.toLower = (trim b.toList).map Char.toLower → u = v) ∧
    ∀ u ∈ (abreast moves ⟨.empty, stamps⟩).state.store.table.live,
      ∃ v, ((base tableBacking).run (.update u.id ⟨some u.name, none⟩)
          (abreast moves ⟨.empty, stamps⟩).state).1 = .ok v ∧ v.name = u.name := by
  have hempty : Table.Sound (World.mk Repository.empty stamps).store.table := Table.sound_nil
  have hstart : NormalRows (World.mk Repository.empty stamps).store.table := fun id u hu => nomatch hu
  have hnow := abreast_orderly hempty moves
  have hlater := abreast_orderly hempty (moves ++ more)
  have hlog : (abreast moves ⟨.empty, stamps⟩).log <+:
      (abreast (moves ++ more) ⟨.empty, stamps⟩).log := by
    simp only [abreast]
    rw [Crowd.run_append]
    exact Crowd.log_run _ _ more _
  have hsound := sound_tableAt hempty (abreast moves ⟨.empty, stamps⟩).log
  have hsoundLater := sound_tableAt hempty (abreast (moves ++ more) ⟨.empty, stamps⟩).log
  have hrows := rows_normal hstart hnow.lawful _ (List.prefix_refl _)
  rw [hnow.state, hlater.state]
  refine ⟨fun id u hu => ?_, fun u hu v hv => ⟨?_, ?_⟩, fun u hu => ?_⟩
  · obtain ⟨v, hv, hcreated⟩ := createdAt_kept hlater.lawful hlog hu
    have hname := hrows id u hu
    have hid := hsound.id_eq hu
    exact ⟨hid, hname.written, hname.trimmed, hname.short, Email.ofText_text u.email, v, hv,
      (hsoundLater.id_eq hv).trans hid.symm, hcreated⟩
  · exact eq_of_normalForm hsound hu hv (Email.ofText_text u.email) (Email.ofText_text v.email)
  · intro a b ha hb halike
    exact eq_of_normalForm hsound hu hv ha hb (Email.normalForm_of_alike halike)
  · obtain ⟨hget, hlive⟩ := hsound.mem_live_iff.1 hu
    exact rename_to_own hsound (Table.find?_eq_some.2 ⟨hget, hlive⟩) (hrows u.id u hget)

/-- Moves for a trial: a user is created from texts that are not in normal form. -/
def renamingMoves : List (Move Operation) :=
  [.come (.create ⟨" Ann ", "Ann@X.com "⟩), .turn 0, .turn 0]

theorem stored_users_normal_in_trial :
    ∃ u ∈ (abreast renamingMoves ⟨.empty, Stamps.still⟩).state.store.table.live,
      u.name = "Ann" ∧ u.email.text = "ann@x.com" ∧ trimmed u.name = u.name ∧
        ∃ v, ((base tableBacking).run (.update u.id ⟨some u.name, none⟩)
          (abreast renamingMoves ⟨.empty, Stamps.still⟩).state).1 = .ok v ∧ v.name = u.name := by
  obtain ⟨-, -, hrename⟩ := stored_users_normal Stamps.still renamingMoves []
  have hthere : (abreast renamingMoves ⟨.empty, Stamps.still⟩).state.store.table.live.map
      (fun u => (u.name, u.email.text)) = [("Ann", "ann@x.com")] := by decide +kernel
  obtain ⟨u, hu, hsame⟩ := List.mem_map.1 (hthere ▸ List.mem_singleton.2 rfl)
  obtain ⟨hname, hemail⟩ := Prod.mk.inj hsame
  refine ⟨u, hu, hname, hemail, ?_, hrename u hu⟩
  rw [hname]
  decide

end Roster.Service
