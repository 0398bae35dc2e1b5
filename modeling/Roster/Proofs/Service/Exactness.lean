import Roster.Proofs.Service.Base
import Roster.Proofs.Service.NormalRequests

/-!
# What changes do, exactly

A creation, a change or a deletion writes one row, or fails and writes nothing. Which of them happens
follows from the request and the live users, stage by stage: an early stage that refuses hides what a
later one would have said.

* `Creation`, `Amendment` and `Deletion` are what can come of each, one constructor for every stage;
  `creation`, `amendment` and `deletion` say that nothing else does.
* `CreationExact`, `AmendmentExact` and `DeletionExact` say the same failure by failure, and what a row
  that is written has from the request.
* `mutations_exact` is the result, for every state that a repository can be in.
-/

namespace Roster.Service

open Roster.Store Roster.Text Roster.Time

/-! ### Failures -/

section Failures

variable {α : Type}

/-- Something fails because there is no such thing. -/
def Missing (x : Except Failure α) : Prop := ∃ kind id, x = .error (.notFound kind id)

/-- Something fails because it contradicts what is there. -/
def Conflicting (x : Except Failure α) : Prop := ∃ reason, x = .error (.conflict reason)

end Failures

/-! ### Rows -/

/-- One row is written, under the id of its record, and counted; every other row stays. -/
structure WritesRow (before : Repository) (u : User) (after : Repository) : Prop where
  written : Keyed.get? after.table u.id = some u
  others {id : UserId} : id ≠ u.id → Keyed.get? after.table id = Keyed.get? before.table id
  counted : after.version = before.version + 1

theorem writesRow_put (r : Repository) (u : User) :
    WritesRow r u ⟨Keyed.put r.table u.id u, r.version + 1⟩ where
  written := by rw [Keyed.get?_put, if_pos rfl]
  others hne := by rw [Keyed.get?_put, if_neg (Ne.symm hne)]
  counted := rfl

/-! ### Creations -/

section Creations

variable {w : World Repository} {r : CreateRequest}

/-- What a creation saves, unless a check refuses it. -/
def checkedFields (r : CreateRequest) : Except Failure (String × Email) := do
  r.check
  return (← normalName r.name, ← normalEmail r.email)

theorem createUser_eq (r : CreateRequest) :
    createUser r = match checkedFields r with
      | .error e => return .error e
      | .ok (name, email) => saveNew name email := rfl

theorem onlyInvalid_checkedFields (r : CreateRequest) : OnlyInvalid (checkedFields r) :=
  (onlyInvalid_check r.fields).bind fun _ => (onlyInvalid_normalName r.name).bind fun _ =>
    (onlyInvalid_normalEmail r.email).bind fun _ => .ok _

theorem checkedFields_eq_ok {name : String} {email : Email} :
    checkedFields r = .ok (name, email) ↔
      ¬r.Faulty ∧ name = trimmed r.name ∧ email.text = Email.normalForm r.email := by
  have hsteps : checkedFields r = .ok (name, email) ↔ r.check = .ok () ∧
      normalName r.name = .ok name ∧ normalEmail r.email = .ok email := by
    simp only [checkedFields, bind_eq_ok]
    constructor
    · rintro ⟨⟨⟩, hcheck, name', hname, email', hemail, hsame⟩
      cases hsame
      exact ⟨hcheck, hname, hemail⟩
    · rintro ⟨hcheck, hname, hemail⟩
      exact ⟨(), hcheck, name, hname, email, hemail, rfl⟩
  rw [hsteps, r.check_eq, UpdateRequest.check_eq_ok, normalName_eq_ok, normalEmail_eq_ok,
    CreateRequest.faulty_iff, not_or]
  constructor
  · rintro ⟨hshort, ⟨hwritten, hname⟩, hemail⟩
    refine ⟨⟨hshort, ?_⟩, hname, hemail⟩
    rintro (⟨s, hs, hblank⟩ | ⟨s, hs, hwrong⟩)
    · cases hs
      rw [hwritten] at hblank
      cases hblank
    · cases hs
      rw [Email.exists_text_iff.1 ⟨email, hemail⟩] at hwrong
      cases hwrong
  · rintro ⟨⟨hshort, husable⟩, hname, hemail⟩
    exact ⟨hshort, ⟨Bool.eq_false_iff.2 fun hblank => husable (.inl ⟨_, rfl, hblank⟩), hname⟩,
      hemail⟩

theorem faulty_of_checkedFields {e : Failure} (h : checkedFields r = .error e) : r.Faulty := by
  apply Decidable.byContradiction
  intro hfine
  have husable : ¬r.fields.Unusable := fun hwrong => hfine (CreateRequest.faulty_iff.2 (.inr hwrong))
  obtain ⟨name, email, hchanges⟩ := exists_normalChanges_iff.2 husable
  obtain ⟨-, -, hemail⟩ := normalChanges_eq_ok.1 hchanges
  obtain ⟨e', -, he'⟩ := Option.map_eq_some_iff.1 hemail
  rw [checkedFields_eq_ok.2 ⟨hfine, rfl, he'⟩] at h
  cases h

/-- The user whom a creation saves. -/
def newcomer (w : World Repository) (r : CreateRequest) (email : Email) : User :=
  .create w.stamps.newUser.1.1 (trimmed r.name) email w.stamps.newUser.1.2

/-- What can come of a creation: a refusal by the checks, a refusal because the new id or the address is
in use, or a new row. -/
inductive Creation (w : World Repository) (r : CreateRequest) :
    Except Failure User → Repository → Prop
  | invalid {reason : String} : r.Faulty → Creation w r (.error (.validation reason)) w.store
  | clash {v : User} : ¬r.Faulty → Keyed.get? w.store.table w.stamps.newUser.1.1 = some v →
      Creation w r (.error (Table.idTaken w.stamps.newUser.1.1)) w.store
  | taken {v : User} : ¬r.Faulty → Keyed.get? w.store.table w.stamps.newUser.1.1 = none →
      v ∈ w.store.table.live → v.email.text = Email.normalForm r.email →
      Creation w r (.error (Table.emailTaken v.email)) w.store
  | saved {email : Email} : ¬r.Faulty → Keyed.get? w.store.table w.stamps.newUser.1.1 = none →
      email.text = Email.normalForm r.email → (∀ v ∈ w.store.table.live, v.email ≠ email) →
      Creation w r (.ok (newcomer w r email))
        ⟨Keyed.put w.store.table (newcomer w r email).id (newcomer w r email), w.store.version + 1⟩

theorem creation (w : World Repository) (r : CreateRequest) :
    Creation w r ((base tableBacking).run (.create r) w).1
      ((base tableBacking).run (.create r) w).2.store := by
  show Creation w r ((createUser r).run tableBacking.handle w).1
    ((createUser r).run tableBacking.handle w).2.store
  rw [createUser_eq]
  cases hfields : checkedFields r with
  | error e =>
    obtain ⟨reason, hreason⟩ := onlyInvalid_checkedFields r e hfields
    cases hreason.symm.trans hfields
    exact .invalid (faulty_of_checkedFields hfields)
  | ok fields =>
    obtain ⟨name, email⟩ := fields
    obtain ⟨hfine, rfl, hemail⟩ := checkedFields_eq_ok.1 hfields
    have hrun : (saveNew (trimmed r.name) email).run tableBacking.handle w =
        ((w.store.run (.save (newcomer w r email))).1,
          ⟨(w.store.run (.save (newcomer w r email))).2, w.stamps.newUser.2⟩) := rfl
    dsimp only
    rw [hrun]
    simp only [Repository.run, Call.onTable]
    rcases Table.insert_cases w.store.table (newcomer w r email) with
      ⟨⟨v, hv⟩, he⟩ | ⟨hfree, ⟨v, hv, hsame⟩, he⟩ | ⟨hfree, hothers, he⟩
    · rw [he]
      exact .clash hfine hv
    · rw [he, ← hsame]
      exact .taken hfine hfree hv (hsame ▸ hemail)
    · rw [he]
      exact .saved hfine hfree hemail hothers

/-- A creation fails and leaves everything as it was, or writes one row for a live user under an unused
id. It is invalid exactly if the request is at fault; otherwise, the new id being unused, it conflicts
exactly if a live user has the address. -/
structure CreationExact (w : World Repository) (r : CreateRequest) (reply : Except Failure User)
    (after : Repository) : Prop where
  failed : ∀ e, reply = .error e → after = w.store
  saved : ∀ u, reply = .ok u → Keyed.get? w.store.table u.id = none ∧ WritesRow w.store u after ∧
    u.name = trimmed r.name ∧ u.email.text = Email.normalForm r.email ∧ u.isLive = true ∧
    u.createdAt = u.updatedAt
  invalid : Invalid reply ↔ r.Faulty
  clash : ∀ v, Keyed.get? w.store.table w.stamps.newUser.1.1 = some v → ¬r.Faulty →
    reply = .error (Table.idTaken w.stamps.newUser.1.1)
  conflicting : Keyed.get? w.store.table w.stamps.newUser.1.1 = none →
    (Conflicting reply ↔ ¬r.Faulty ∧
      ∃ v ∈ w.store.table.live, v.email.text = Email.normalForm r.email)
  accepted : (∃ u, reply = .ok u) ↔ ¬r.Faulty ∧
    Keyed.get? w.store.table w.stamps.newUser.1.1 = none ∧
    ∀ v ∈ w.store.table.live, v.email.text ≠ Email.normalForm r.email

theorem Creation.exact {reply : Except Failure User} {after : Repository}
    (h : Creation w r reply after) : CreationExact w r reply after := by
  cases h with
  | invalid hfault =>
    exact {
      failed := fun _ _ => rfl
      saved := fun _ h => nomatch h
      invalid := iff_of_true ⟨_, rfl⟩ hfault
      clash := fun _ _ hfine => absurd hfault hfine
      conflicting := fun _ => iff_of_false (fun ⟨_, h⟩ => nomatch h) fun h => h.1 hfault
      accepted := iff_of_false (fun ⟨_, h⟩ => nomatch h) fun h => h.1 hfault }
  | clash hfine hv =>
    exact {
      failed := fun _ _ => rfl
      saved := fun _ h => nomatch h
      invalid := iff_of_false (fun ⟨_, h⟩ => nomatch h) hfine
      clash := fun _ _ _ => rfl
      conflicting := fun hfree => nomatch hv.symm.trans hfree
      accepted := iff_of_false (fun ⟨_, h⟩ => nomatch h) fun h => nomatch hv.symm.trans h.2.1 }
  | taken hfine hfree hv hemail =>
    exact {
      failed := fun _ _ => rfl
      saved := fun _ h => nomatch h
      invalid := iff_of_false (fun ⟨_, h⟩ => nomatch h) hfine
      clash := fun _ hclash _ => nomatch hfree.symm.trans hclash
      conflicting := fun _ => iff_of_true ⟨_, rfl⟩ ⟨hfine, _, hv, hemail⟩
      accepted := iff_of_false (fun ⟨_, h⟩ => nomatch h) fun h => h.2.2 _ hv hemail }
  | @saved email hfine hfree hemail hothers =>
    have hapart : ∀ v ∈ w.store.table.live, v.email.text ≠ Email.normalForm r.email := by
      intro v hv hsame
      apply hothers v hv
      exact Email.eq_of_text (hsame.trans hemail.symm)
    exact {
      failed := fun _ h => nomatch h
      saved := fun u hu => by
        cases hu
        exact ⟨hfree, writesRow_put _ _, rfl, hemail, rfl, rfl⟩
      invalid := iff_of_false (fun ⟨_, h⟩ => nomatch h) hfine
      clash := fun _ hclash _ => nomatch hfree.symm.trans hclash
      conflicting := fun _ => iff_of_false (fun ⟨_, h⟩ => nomatch h) fun ⟨_, v, hv, hsame⟩ =>
        hapart v hv hsame
      accepted := iff_of_true ⟨_, rfl⟩ ⟨hfine, hfree, hapart⟩ }

end Creations

/-! ### Changes of a user -/

section Amendments

variable {w : World Repository} {id : UserId} {r : UpdateRequest}

/-- What can come of a change: a refusal for its length, for want of a live user, for what it gives or
for the address of another live user, or the user's row with what is given in its place. -/
inductive Amendment (w : World Repository) (id : UserId) (r : UpdateRequest) :
    Except Failure User → Repository → Prop
  | tooLong {reason : String} : r.TooLong → Amendment w id r (.error (.validation reason)) w.store
  | missing : ¬r.TooLong → w.store.table.find? id = none →
      Amendment w id r (.error (.noUser id)) w.store
  | unusable {v : User} {reason : String} : ¬r.TooLong → w.store.table.find? id = some v →
      r.Unusable → Amendment w id r (.error (.validation reason)) w.store
  | taken {v o : User} : ¬r.TooLong → w.store.table.find? id = some v → ¬r.Unusable →
      o ∈ w.store.table.live → o.id ≠ id → r.email.map Email.normalForm = some o.email.text →
      Amendment w id r (.error (Table.emailTaken o.email)) w.store
  | saved {v u : User} {email : Option Email} : ¬r.TooLong → w.store.table.find? id = some v →
      ¬r.Unusable → email.map Email.text = r.email.map Email.normalForm →
      (∀ o ∈ w.store.table.live, o.id ≠ id → email ≠ some o.email) →
      u = amended v (r.name.map trimmed) email w.stamps.change.1 →
      Amendment w id r (.ok u) ⟨Keyed.put w.store.table u.id u, w.store.version + 1⟩

/-- The stage that writes: what is given is in order, and only another user can be in the way. -/
theorem amendment_of_changes {v : User} {email : Option Email} (hsound : w.store.table.Sound)
    (hshort : ¬r.TooLong) (hv : w.store.table.find? id = some v) (husable : ¬r.Unusable)
    (hemail : email.map Email.text = r.email.map Email.normalForm) :
    Amendment w id r
      (w.store.run (.update (amended v (r.name.map trimmed) email w.stamps.change.1))).1
      (w.store.run (.update (amended v (r.name.map trimmed) email w.stamps.change.1))).2 := by
  obtain ⟨hlive, hid⟩ := hsound.find?_eq_some_iff.1 hv
  generalize hu : amended v (r.name.map trimmed) email w.stamps.change.1 = u
  have huid : u.id = id := by rw [← hu, ← hid]; rfl
  have huemail : u.email = email.getD v.email := by rw [← hu]; rfl
  simp only [Repository.run, Call.onTable]
  rcases Table.update_cases w.store.table u with
    ⟨hnone, -⟩ | ⟨-, ⟨o, ho, hother, hsame⟩, he⟩ | ⟨-, hothers, he⟩
  · rw [huid, hv] at hnone
    cases hnone
  · rw [he, ← hsame]
    refine .taken hshort hv husable ho (huid ▸ hother) ?_
    cases email with
    | none =>
      -- no address is given, and the own one nobody else has
      have heq := hsound.emails_apart ho hlive (hsame.trans huemail)
      exact absurd (heq ▸ hid.trans huid.symm) hother
    | some e =>
      rw [← hemail, hsame, huemail]
      rfl
  · rw [he]
    refine .saved hshort hv husable hemail ?_ hu.symm
    intro o ho hother hsame
    apply hother
    rw [← huid]
    exact hothers o ho (by rw [huemail, hsame]; rfl)

theorem amendment (hsound : w.store.table.Sound) (id : UserId) (r : UpdateRequest) :
    Amendment w id r ((base tableBacking).run (.update id r) w).1
      ((base tableBacking).run (.update id r) w).2.store := by
  show Amendment w id r ((updateUser id r).run tableBacking.handle w).1
    ((updateUser id r).run tableBacking.handle w).2.store
  simp only [updateUser]
  split
  · rename_i e hcheck
    obtain ⟨reason, hreason⟩ := onlyInvalid_check r e hcheck
    cases hreason.symm.trans hcheck
    exact .tooLong (UpdateRequest.tooLong_of_check hcheck)
  · rename_i hcheck
    have hshort := UpdateRequest.check_eq_ok.1 hcheck
    rw [Program.run_monad_bind, run_load]
    cases hv : w.store.table.find? id with
    | none => exact .missing hshort hv
    | some v =>
      dsimp only
      split
      · rename_i e hchanges
        obtain ⟨reason, hreason⟩ := onlyInvalid_normalChanges r e hchanges
        cases hreason.symm.trans hchanges
        exact .unusable hshort hv (unusable_of_normalChanges hchanges)
      · rename_i name email hchanges
        obtain ⟨husable, rfl, hemail⟩ := normalChanges_eq_ok.1 hchanges
        obtain ⟨stamps, hrun⟩ := run_saveChanged v (r.name.map trimmed) email w
        rw [hrun]
        exact amendment_of_changes hsound hshort hv husable hemail

/-- A change fails and leaves everything as it was, or writes one row: that of the live user under the
id, with a name and an address in normal form where they are given, and the moment of the last change only
if one of them is. It is invalid exactly if the request is too long or, there being such a user, unusable;
otherwise it finds nobody exactly if there is no such user, and conflicts exactly if another live user has
the address that is given. -/
structure AmendmentExact (w : World Repository) (id : UserId) (r : UpdateRequest)
    (reply : Except Failure User) (after : Repository) : Prop where
  failed : ∀ e, reply = .error e → after = w.store
  saved : ∀ u, reply = .ok u → ∃ v ∈ w.store.table.live, v.id = id ∧ WritesRow w.store u after ∧
    u.id = v.id ∧ u.createdAt = v.createdAt ∧ u.deletedAt = v.deletedAt ∧
    u.name = (r.name.map trimmed).getD v.name ∧
    u.email.text = (r.email.map Email.normalForm).getD v.email.text ∧
    (r.name = none → r.email = none → u.updatedAt = v.updatedAt)
  invalid : Invalid reply ↔ r.TooLong ∨ (∃ v ∈ w.store.table.live, v.id = id) ∧ r.Unusable
  missing : Missing reply ↔ ¬r.TooLong ∧ ∀ v ∈ w.store.table.live, v.id ≠ id
  conflicting : Conflicting reply ↔ ¬r.TooLong ∧ (∃ v ∈ w.store.table.live, v.id = id) ∧
    ¬r.Unusable ∧
    ∃ o ∈ w.store.table.live, o.id ≠ id ∧ r.email.map Email.normalForm = some o.email.text
  accepted : (∃ u, reply = .ok u) ↔ ¬r.TooLong ∧ (∃ v ∈ w.store.table.live, v.id = id) ∧
    ¬r.Unusable ∧
    ∀ o ∈ w.store.table.live, o.id ≠ id → r.email.map Email.normalForm ≠ some o.email.text

theorem Amendment.exact (hsound : w.store.table.Sound) {reply : Except Failure User}
    {after : Repository} (h : Amendment w id r reply after) :
    AmendmentExact w id r reply after := by
  cases h with
  | tooLong hlong =>
    exact {
      failed := fun _ _ => rfl
      saved := fun _ h => nomatch h
      invalid := iff_of_true ⟨_, rfl⟩ (.inl hlong)
      missing := iff_of_false (fun ⟨_, _, h⟩ => nomatch h) fun h => h.1 hlong
      conflicting := iff_of_false (fun ⟨_, h⟩ => nomatch h) fun h => h.1 hlong
      accepted := iff_of_false (fun ⟨_, h⟩ => nomatch h) fun h => h.1 hlong }
  | missing hshort hnone =>
    have hnobody := hsound.find?_eq_none_iff.1 hnone
    have hnot : ¬∃ v ∈ w.store.table.live, v.id = id := fun ⟨v, hv, hid⟩ => hnobody v hv hid
    exact {
      failed := fun _ _ => rfl
      saved := fun _ h => nomatch h
      invalid := iff_of_false (fun ⟨_, h⟩ => nomatch h) fun h => h.elim hshort fun h => hnot h.1
      missing := iff_of_true ⟨_, _, rfl⟩ ⟨hshort, hnobody⟩
      conflicting := iff_of_false (fun ⟨_, h⟩ => nomatch h) fun h => hnot h.2.1
      accepted := iff_of_false (fun ⟨_, h⟩ => nomatch h) fun h => hnot h.2.1 }
  | unusable hshort hv hwrong =>
    obtain ⟨hlive, hid⟩ := hsound.find?_eq_some_iff.1 hv
    exact {
      failed := fun _ _ => rfl
      saved := fun _ h => nomatch h
      invalid := iff_of_true ⟨_, rfl⟩ (.inr ⟨⟨_, hlive, hid⟩, hwrong⟩)
      missing := iff_of_false (fun ⟨_, _, h⟩ => nomatch h) fun h => h.2 _ hlive hid
      conflicting := iff_of_false (fun ⟨_, h⟩ => nomatch h) fun h => h.2.2.1 hwrong
      accepted := iff_of_false (fun ⟨_, h⟩ => nomatch h) fun h => h.2.2.1 hwrong }
  | taken hshort hv husable ho hother hsame =>
    obtain ⟨hlive, hid⟩ := hsound.find?_eq_some_iff.1 hv
    exact {
      failed := fun _ _ => rfl
      saved := fun _ h => nomatch h
      invalid := iff_of_false (fun ⟨_, h⟩ => nomatch h) fun h => h.elim hshort fun h => husable h.2
      missing := iff_of_false (fun ⟨_, _, h⟩ => nomatch h) fun h => h.2 _ hlive hid
      conflicting := iff_of_true ⟨_, rfl⟩ ⟨hshort, ⟨_, hlive, hid⟩, husable, _, ho, hother, hsame⟩
      accepted := iff_of_false (fun ⟨_, h⟩ => nomatch h) fun h => h.2.2.2 _ ho hother hsame }
  | @saved v u email hshort hv husable hemail hothers hu =>
    obtain ⟨hlive, hid⟩ := hsound.find?_eq_some_iff.1 hv
    have hapart : ∀ o ∈ w.store.table.live, o.id ≠ id →
        r.email.map Email.normalForm ≠ some o.email.text := by
      intro o ho hother hsame
      rw [← hemail] at hsame
      obtain ⟨e, rfl, he⟩ := Option.map_eq_some_iff.1 hsame
      exact hothers o ho hother (congrArg some (Email.eq_of_text he))
    have htext : u.email.text = (r.email.map Email.normalForm).getD v.email.text := by
      rw [← hemail, hu]
      cases email <;> rfl
    have htouched : r.name = none → r.email = none → u.updatedAt = v.updatedAt := by
      intro hname hasked
      rw [hasked] at hemail
      obtain rfl := Option.map_eq_none_iff.1 hemail
      rw [hu, hname]
      rfl
    exact {
      failed := fun _ h => nomatch h
      saved := fun u' hu' => by
        cases hu'
        refine ⟨v, hlive, hid, writesRow_put _ _, ?_, ?_, ?_, ?_, htext, htouched⟩ <;> rw [hu] <;>
          rfl
      invalid := iff_of_false (fun ⟨_, h⟩ => nomatch h) fun h => h.elim hshort fun h => husable h.2
      missing := iff_of_false (fun ⟨_, _, h⟩ => nomatch h) fun h => h.2 _ hlive hid
      conflicting := iff_of_false (fun ⟨_, h⟩ => nomatch h) fun ⟨_, _, _, o, ho, hother, hsame⟩ =>
        hapart o ho hother hsame
      accepted := iff_of_true ⟨_, rfl⟩ ⟨hshort, ⟨_, hlive, hid⟩, husable, hapart⟩ }

end Amendments

/-! ### Deletions -/

section Deletions

variable {w : World Repository} {id : UserId}

/-- What can come of a deletion: there is no live user, or the row is marked. -/
inductive Deletion (w : World Repository) (id : UserId) : Except Failure Unit → Repository → Prop
  | missing : w.store.table.find? id = none → Deletion w id (.error (.noUser id)) w.store
  | marked {v : User} {now : Timestamp} : w.store.table.find? id = some v →
      Deletion w id (.ok ())
        ⟨Keyed.put w.store.table id (v.markDeleted now), w.store.version + 1⟩

theorem deletion (w : World Repository) (id : UserId) :
    Deletion w id ((base tableBacking).run (.delete id) w).1
      ((base tableBacking).run (.delete id) w).2.store := by
  obtain ⟨now, stamps, hrun⟩ := run_delete id w
  rw [hrun]
  simp only [Repository.run, Call.onTable, Table.softDelete?]
  cases hv : w.store.table.find? id with
  | none => exact .missing hv
  | some v => exact .marked hv

/-- A deletion finds nobody, exactly if there is no live user under the id, and leaves everything as it
was, or writes one row: the user's with the mark. -/
structure DeletionExact (w : World Repository) (id : UserId) (reply : Except Failure Unit)
    (after : Repository) : Prop where
  failed : ∀ e, reply = .error e → after = w.store
  marked : reply = .ok () → ∃ v ∈ w.store.table.live, v.id = id ∧
    ∃ now, WritesRow w.store (v.markDeleted now) after
  missing : Missing reply ↔ ∀ v ∈ w.store.table.live, v.id ≠ id
  accepted : reply = .ok () ↔ ∃ v ∈ w.store.table.live, v.id = id

theorem Deletion.exact (hsound : w.store.table.Sound) {reply : Except Failure Unit}
    {after : Repository} (h : Deletion w id reply after) : DeletionExact w id reply after := by
  cases h with
  | missing hnone =>
    have hnobody := hsound.find?_eq_none_iff.1 hnone
    exact {
      failed := fun _ _ => rfl
      marked := fun h => nomatch h
      missing := iff_of_true ⟨_, _, rfl⟩ hnobody
      accepted := iff_of_false (fun h => nomatch h) fun ⟨v, hv, hid⟩ => hnobody v hv hid }
  | @marked v now hv =>
    obtain ⟨hlive, rfl⟩ := hsound.find?_eq_some_iff.1 hv
    exact {
      failed := fun _ h => nomatch h
      marked := fun _ => ⟨v, hlive, rfl, now, writesRow_put w.store (v.markDeleted now)⟩
      missing := iff_of_false (fun ⟨_, _, h⟩ => nomatch h) fun h => h v hlive rfl
      accepted := iff_of_true rfl ⟨v, hlive, rfl⟩ }

end Deletions

/-! ### Every state of a repository -/

/-- A repository after calls on it and on its units of work, with stamps to come. -/
def worldAfter (events : List Event) (stamps : Stamps) : World Repository :=
  ⟨(Session.run events (.ofRepository .empty)).repository, stamps⟩

theorem sound_worldAfter (events : List Event) (stamps : Stamps) :
    (worldAfter events stamps).store.table.Sound :=
  (Session.safe_empty.after events).sound.1

/-- **Changes are exact and write all or nothing.**  In every state that calls and units of work lead to,
whatever the next stamps are, every creation, change and deletion does what `CreationExact`,
`AmendmentExact` and `DeletionExact` say. -/
theorem mutations_exact (events : List Event) (stamps : Stamps) :
    (∀ r, CreationExact (worldAfter events stamps) r
      ((base tableBacking).run (.create r) (worldAfter events stamps)).1
      ((base tableBacking).run (.create r) (worldAfter events stamps)).2.store) ∧
    (∀ id r, AmendmentExact (worldAfter events stamps) id r
      ((base tableBacking).run (.update id r) (worldAfter events stamps)).1
      ((base tableBacking).run (.update id r) (worldAfter events stamps)).2.store) ∧
    ∀ id, DeletionExact (worldAfter events stamps) id
      ((base tableBacking).run (.delete id) (worldAfter events stamps)).1
      ((base tableBacking).run (.delete id) (worldAfter events stamps)).2.store := by
  have hsound := sound_worldAfter events stamps
  refine ⟨?_, ?_, ?_⟩
  · intro r
    exact (creation _ r).exact
  · intro id r
    exact (amendment hsound id r).exact hsound
  · intro id
    exact (deletion _ id).exact hsound

/-- Calls for a trial: of two users who are saved, one is deleted again. -/
def trialSaves : List Event :=
  let moment := Stamps.still.moments 0
  let ada : Email := ⟨"ada@x.com", by decide +kernel, by decide +kernel⟩
  let max : Email := ⟨"max@x.com", by decide +kernel, by decide +kernel⟩
  [.direct (.save (.create (.inSeries 1) "Ada" ada moment)),
    .direct (.save (.create (.inSeries 2) "Max" max moment)),
    .direct (.delete (.inSeries 2) moment)]

/-- The address of the deleted user is free and that of the live one is not; a name that is too long is
refused for a user who is not there, a blank one only for a user who is. -/
theorem mutations_exact_in_trial :
    (∃ u, ((base tableBacking).run (.create ⟨" Zoe ", "MAX@x.com"⟩)
        (worldAfter trialSaves Stamps.still)).1 = .ok u ∧
      u.name = "Zoe" ∧ u.email.text = "max@x.com") ∧
    Conflicting ((base tableBacking).run (.create ⟨"Zoe", " Ada@x.com"⟩)
      (worldAfter trialSaves Stamps.still)).1 ∧
    Invalid ((base tableBacking).run (.update (.inSeries 2) ⟨some ("".pushn 'a' 129), none⟩)
      (worldAfter trialSaves Stamps.still)).1 ∧
    Missing ((base tableBacking).run (.update (.inSeries 2) ⟨some " ", none⟩)
      (worldAfter trialSaves Stamps.still)).1 ∧
    Invalid ((base tableBacking).run (.update (.inSeries 1) ⟨some " ", none⟩)
      (worldAfter trialSaves Stamps.still)).1 ∧
    Missing ((base tableBacking).run (.delete (.inSeries 2))
      (worldAfter trialSaves Stamps.still)).1 := by
  obtain ⟨hcreate, hupdate, hdelete⟩ := mutations_exact trialSaves Stamps.still
  refine ⟨?_, ?_, ?_, ?_, ?_, ?_⟩
  · obtain ⟨u, hu⟩ := (hcreate ⟨" Zoe ", "MAX@x.com"⟩).accepted.2 (by decide +kernel)
    obtain ⟨-, -, hname, hemail, -⟩ := (hcreate ⟨" Zoe ", "MAX@x.com"⟩).saved u hu
    have htrimmed : trimmed " Zoe " = "Zoe" := by decide +kernel
    have hform : Email.normalForm "MAX@x.com" = "max@x.com" := by decide +kernel
    exact ⟨u, hu, hname.trans htrimmed, hemail.trans hform⟩
  · exact ((hcreate ⟨"Zoe", " Ada@x.com"⟩).conflicting (by decide +kernel)).2 (by decide +kernel)
  · exact (hupdate _ _).invalid.2 (.inl (by decide +kernel))
  · exact (hupdate _ _).missing.2 (by decide +kernel)
  · exact (hupdate _ _).invalid.2 (.inr (by decide +kernel))
  · exact (hdelete _).missing.2 (by decide +kernel)

end Roster.Service
