import Roster.Proofs.Store.Invariant
import Roster.Service.Base

/-!
# What the service on a repository does

Each operation either fails and leaves the repository as it was, or does one thing: it looks up, or
writes one record and counts one version on.

* `base_get` and `base_list` say what is looked up, `run_create`, `run_update` and `run_delete` which
  call a change makes.
* `base_create_ok`, `base_update_ok` and `base_delete_ok` say what is written, `base_error` that a
  failure writes nothing.
-/

namespace Roster.Service

open Roster.Store Roster.Time

/-- Stamps for trials: ids in a series, and one moment for everything. -/
def Stamps.still : Stamps :=
  let moment : Timestamp := ⟨0, 0, by decide, by decide, by decide, by decide⟩
  ⟨UserId.inSeries, fun _ => moment, fun _ => moment, 0, 0, 0⟩

/-! ### Calls on the repository -/

theorem run_of_error {r : Repository} {c : Call} {e : Failure} (h : (r.run c).1 = .error e) :
    (r.run c).2 = r := by
  rw [Repository.run_snd, h]
  cases c <;> rfl

theorem run_save_ok {r : Repository} {u v : User} (h : (r.run (.save u)).1 = .ok v) :
    v = u ∧ Keyed.get? r.table u.id = none ∧
      (r.run (.save u)).2 = ⟨Keyed.put r.table u.id u, r.version + 1⟩ := by
  simp only [Repository.run, Call.onTable] at h ⊢
  cases hi : r.table.insert u with
  | error e => rw [hi] at h; cases h
  | ok t =>
    rw [hi] at h
    obtain ⟨hfree, -, ht⟩ := Table.insert_eq_ok hi
    exact ⟨(Except.ok.inj h).symm, hfree, by rw [ht]⟩

theorem run_update_ok {r : Repository} {u v : User} (h : (r.run (.update u)).1 = .ok v) :
    v = u ∧ (∃ w, r.table.find? u.id = some w) ∧
      (r.run (.update u)).2 = ⟨Keyed.put r.table u.id u, r.version + 1⟩ := by
  simp only [Repository.run, Call.onTable] at h ⊢
  cases hi : r.table.update u with
  | error e => rw [hi] at h; cases h
  | ok t =>
    rw [hi] at h
    obtain ⟨hthere, -, ht⟩ := Table.update_eq_ok hi
    exact ⟨(Except.ok.inj h).symm, hthere, by rw [ht]⟩

theorem run_delete_true {r : Repository} {id : UserId} {now : Timestamp}
    (h : (r.run (.delete id now)).1 = .ok true) :
    ∃ v, r.table.find? id = some v ∧
      (r.run (.delete id now)).2 = ⟨Keyed.put r.table id (v.markDeleted now), r.version + 1⟩ := by
  simp only [Repository.run, Call.onTable] at h ⊢
  cases hi : r.table.softDelete? id now with
  | none => rw [hi] at h; cases h
  | some t =>
    obtain ⟨v, hv, ht⟩ := Table.softDelete?_eq_some hi
    exact ⟨v, hv, by rw [ht]⟩

theorem run_delete_false {r : Repository} {id : UserId} {now : Timestamp}
    (h : (r.run (.delete id now)).1 = .ok false) : (r.run (.delete id now)).2 = r := by
  rw [Repository.run_snd, h]
  rfl

/-! ### Lookups -/

theorem run_load (id : UserId) (w : World Repository) :
    (load id).run tableBacking.handle w =
      (match w.store.table.find? id with
        | some u => .ok u
        | none => .error (.noUser id), w) := by
  have hfind : tableBacking.handle (.call (.find id)) w = (.ok (w.store.table.find? id), w) := rfl
  simp only [load, call]
  rw [Program.run_monad_bind, Program.run_take, hfind]
  cases w.store.table.find? id with
  | none => rfl
  | some u => rfl

theorem base_get (id : UserId) (w : World Repository) :
    (base tableBacking).run (.get id) w =
      (match w.store.table.find? id with
        | some u => .ok u
        | none => .error (.noUser id), w) := run_load id w

theorem base_list (r : PageRequest) (w : World Repository) :
    (base tableBacking).run (.list r) w = (.ok (w.store.table.page r), w) := rfl

/-! ### Changes -/

theorem run_saveNew (name : String) (email : Email) (w : World Repository) :
    ∃ u stamps, u.isLive = true ∧ (saveNew name email).run tableBacking.handle w =
      ((w.store.run (.save u)).1, ⟨(w.store.run (.save u)).2, stamps⟩) :=
  ⟨.create w.stamps.newUser.1.1 name email w.stamps.newUser.1.2, w.stamps.newUser.2, rfl, rfl⟩

/-- A record with a name or an address in place of its own, where they are given. -/
def amended (v : User) (name : Option String) (email : Option Email) (now : Timestamp) : User :=
  { v with
    name := name.getD v.name
    email := email.getD v.email
    updatedAt := if name.isNone && email.isNone then v.updatedAt else now }

/-- A change writes the record that was loaded with another name or address. -/
theorem run_saveChanged (v : User) (name : Option String) (email : Option Email)
    (w : World Repository) :
    ∃ stamps, (saveChanged v name email).run tableBacking.handle w =
      ((w.store.run (.update (amended v name email w.stamps.change.1))).1,
        ⟨(w.store.run (.update (amended v name email w.stamps.change.1))).2, stamps⟩) := by
  cases name <;> cases email <;> exact ⟨_, rfl⟩

/-- A creation is refused, or saves one live user. -/
theorem run_create (r : CreateRequest) (w : World Repository) :
    (∃ e, (base tableBacking).run (.create r) w = (.error e, w)) ∨
      ∃ u stamps, u.isLive = true ∧ (base tableBacking).run (.create r) w =
        ((w.store.run (.save u)).1, ⟨(w.store.run (.save u)).2, stamps⟩) := by
  show (∃ e, (createUser r).run tableBacking.handle w = _) ∨
    ∃ u stamps, _ ∧ (createUser r).run tableBacking.handle w = _
  simp only [createUser]
  split
  · exact Or.inl ⟨_, rfl⟩
  · exact Or.inr (run_saveNew _ _ w)

/-- A change is refused, or saves another record of the live user under the id. -/
theorem run_update (id : UserId) (r : UpdateRequest) (w : World Repository) :
    (∃ e, (base tableBacking).run (.update id r) w = (.error e, w)) ∨
      ∃ v u stamps, w.store.table.find? id = some v ∧ u.id = v.id ∧ u.isLive = v.isLive ∧
        (base tableBacking).run (.update id r) w =
          ((w.store.run (.update u)).1, ⟨(w.store.run (.update u)).2, stamps⟩) := by
  show (∃ e, (updateUser id r).run tableBacking.handle w = _) ∨
    ∃ v u stamps, _ ∧ _ ∧ _ ∧ (updateUser id r).run tableBacking.handle w = _
  simp only [updateUser]
  split
  · exact Or.inl ⟨_, rfl⟩
  · rw [Program.run_monad_bind, run_load]
    cases w.store.table.find? id with
    | none => exact Or.inl ⟨_, rfl⟩
    | some v =>
      dsimp only
      split
      · exact Or.inl ⟨_, rfl⟩
      · obtain ⟨stamps, hrun⟩ := run_saveChanged v _ _ w
        exact Or.inr ⟨v, amended v _ _ w.stamps.change.1, stamps, rfl, rfl, rfl, hrun⟩

/-- A deletion makes one call, whatever comes of it. -/
theorem run_delete (id : UserId) (w : World Repository) :
    ∃ now stamps, (base tableBacking).run (.delete id) w =
      (match (w.store.run (.delete id now)).1 with
        | .error e => .error e
        | .ok true => .ok ()
        | .ok false => .error (.noUser id), ⟨(w.store.run (.delete id now)).2, stamps⟩) := by
  refine ⟨w.stamps.deletion.1, w.stamps.deletion.2, ?_⟩
  have hmoment : tableBacking.handle .deletionMoment w =
      (w.stamps.deletion.1, ⟨w.store, w.stamps.deletion.2⟩) := rfl
  have hcall : ∀ now stamps, tableBacking.handle (.call (.delete id now)) ⟨w.store, stamps⟩ =
      ((w.store.run (.delete id now)).1, ⟨(w.store.run (.delete id now)).2, stamps⟩) :=
    fun _ _ => rfl
  show (deleteUser id).run tableBacking.handle w = _
  simp only [deleteUser, call]
  rw [Program.run_monad_bind, Program.run_take, hmoment, Program.run_monad_bind, Program.run_take,
    hcall]
  rcases (w.store.run (.delete id w.stamps.deletion.1)).1 with e | found
  · rfl
  · cases found <;> rfl

/-! ### What an operation leaves behind -/

/-- An operation that fails leaves the repository as it was. -/
theorem base_error {op : Operation} {w : World Repository} {e : Failure}
    (h : ((base tableBacking).run op w).1 = .error e) :
    ((base tableBacking).run op w).2.store = w.store := by
  cases op with
  | create r =>
    rcases run_create r w with ⟨e', hrun⟩ | ⟨u, stamps, -, hrun⟩
    · rw [hrun]
    · rw [hrun] at h ⊢
      exact run_of_error h
  | get id => rw [base_get]
  | update id r =>
    rcases run_update id r w with ⟨e', hrun⟩ | ⟨v, u, stamps, -, -, -, hrun⟩
    · rw [hrun]
    · rw [hrun] at h ⊢
      exact run_of_error h
  | delete id =>
    obtain ⟨now, stamps, hrun⟩ := run_delete id w
    rw [hrun] at h ⊢
    cases hreply : (w.store.run (.delete id now)).1 with
    | error e => exact run_of_error hreply
    | ok found =>
      cases found with
      | true => rw [hreply] at h; cases h
      | false => exact run_delete_false hreply
  | list r => cases h

/-- A user who is created is live and new, and is the one record that is written. -/
theorem base_create_ok {r : CreateRequest} {w : World Repository} {u : User}
    (h : ((base tableBacking).run (.create r) w).1 = .ok u) :
    u.isLive = true ∧ Keyed.get? w.store.table u.id = none ∧
      ((base tableBacking).run (.create r) w).2.store =
        ⟨Keyed.put w.store.table u.id u, w.store.version + 1⟩ := by
  rcases run_create r w with ⟨e, hrun⟩ | ⟨v, stamps, hlive, hrun⟩
  · rw [hrun] at h
    cases h
  · rw [hrun] at h ⊢
    obtain ⟨rfl, hfree, hstore⟩ := run_save_ok h
    exact ⟨hlive, hfree, hstore⟩

/-- A user who is changed was live and stays so under the same id, and is the one record that is
written. -/
theorem base_update_ok {id : UserId} {r : UpdateRequest} {w : World Repository} {u : User}
    (h : ((base tableBacking).run (.update id r) w).1 = .ok u) :
    ∃ v, w.store.table.find? id = some v ∧ u.id = v.id ∧ u.isLive = true ∧
      ((base tableBacking).run (.update id r) w).2.store =
        ⟨Keyed.put w.store.table u.id u, w.store.version + 1⟩ := by
  rcases run_update id r w with ⟨e, hrun⟩ | ⟨v, u', stamps, hfind, hid, hlive, hrun⟩
  · rw [hrun] at h
    cases h
  · rw [hrun] at h ⊢
    obtain ⟨rfl, -, hstore⟩ := run_update_ok h
    exact ⟨v, hfind, hid, hlive.trans (Table.find?_eq_some.1 hfind).2, hstore⟩

/-- A user who is deleted was live, and the record with the mark is the one that is written. -/
theorem base_delete_ok {id : UserId} {w : World Repository}
    (h : ((base tableBacking).run (.delete id) w).1 = .ok ()) :
    ∃ v now, w.store.table.find? id = some v ∧
      ((base tableBacking).run (.delete id) w).2.store =
        ⟨Keyed.put w.store.table id (v.markDeleted now), w.store.version + 1⟩ := by
  obtain ⟨now, stamps, hrun⟩ := run_delete id w
  rw [hrun] at h ⊢
  cases hreply : (w.store.run (.delete id now)).1 with
  | error e => rw [hreply] at h; cases h
  | ok found =>
    cases found with
    | false => rw [hreply] at h; cases h
    | true =>
      obtain ⟨v, hv, hstore⟩ := run_delete_true hreply
      exact ⟨v, now, hv, hstore⟩

/-- An operation makes at most one call that can change the repository. -/
theorem base_store (op : Operation) (w : World Repository) :
    ((base tableBacking).run op w).2.store = w.store ∨
      ∃ c, ((base tableBacking).run op w).2.store = (w.store.run c).2 := by
  cases op with
  | create r =>
    rcases run_create r w with ⟨e, hrun⟩ | ⟨u, stamps, -, hrun⟩
    · exact Or.inl (by rw [hrun])
    · exact Or.inr ⟨.save u, by rw [hrun]⟩
  | get id => exact Or.inl (by rw [base_get])
  | update id r =>
    rcases run_update id r w with ⟨e, hrun⟩ | ⟨v, u, stamps, -, -, -, hrun⟩
    · exact Or.inl (by rw [hrun])
    · exact Or.inr ⟨.update u, by rw [hrun]⟩
  | delete id =>
    obtain ⟨now, stamps, hrun⟩ := run_delete id w
    exact Or.inr ⟨.delete id now, by rw [hrun]⟩
  | list r => exact Or.inl rfl

/-- Every operation keeps the table sound. -/
theorem base_sound {w : World Repository} (h : w.store.table.Sound) (op : Operation) :
    ((base tableBacking).run op w).2.store.table.Sound := by
  rcases base_store op w with he | ⟨c, he⟩
  · rw [he]
    exact h
  · rw [he, Repository.run_table]
    exact Call.result_sound h c

/-- No operation loses a row of the table. -/
theorem base_follows {w : World Repository} (h : w.store.table.Sound) (op : Operation) :
    w.store.table.Follows ((base tableBacking).run op w).2.store.table := by
  rcases base_store op w with he | ⟨c, he⟩
  · rw [he]
    exact Table.Follows.refl _
  · rw [he, Repository.run_table]
    exact Call.follows_result h c

/-- A run of operations keeps the table sound and loses no row of it. -/
theorem base_after {w : World Repository} (h : w.store.table.Sound) (ops : List Operation) :
    (Program.after (base tableBacking).run ops w).store.table.Sound ∧
      w.store.table.Follows (Program.after (base tableBacking).run ops w).store.table := by
  induction ops generalizing w with
  | nil => exact ⟨h, Table.Follows.refl _⟩
  | cons op ops ih =>
    obtain ⟨hsound, hfollows⟩ := ih (base_sound h op)
    exact ⟨hsound, (base_follows h op).trans hfollows⟩

end Roster.Service
