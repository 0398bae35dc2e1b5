import Mathlib.Data.List.Induction
import Roster.Proofs.Interleaving
import Roster.Proofs.Service.Base
import Roster.Proofs.Steps

/-!
# Changes side by side

Requests to the service on a repository, side by side. A creation writes a new record; a change loads a
record in one step and writes it back amended in another, whatever has been written in between.

* `table_handle` says what one step can do to the table.
* `Amended` is a record that was loaded before, with a name or an address in place of its own.
* `Writes` is the rule which records requests write. Every operation keeps to it (`operate_writes`), and
  a change that succeeds has written what `Changed` says.
* `Kept` is a property of users that all these records have if those have it that were loaded;
  `rows_kept` says that all rows have it then.
-/

namespace Roster.Service

open Roster.Store Roster.Time Program

/-- A step for a request to the service on a repository. -/
abbrev StoreStep := Step StoreAct StoreAct.Reply

/-- The table after a log of steps. -/
abbrev tableAt (w : World Repository) (log : List StoreStep) : Table :=
  (reached tableBacking.handle w log).store.table

/-! ### What a step does -/

/-- What a step can do to the table: it saves a user where there was none, puts a record in the place of
that of a live user, marks a live user as deleted, or does nothing. -/
inductive TableStep (t : Table) : StoreAct → Table → Prop
  | saved {u : User} : Keyed.get? t u.id = none → TableStep t (.call (.save u)) (Keyed.put t u.id u)
  | updated {u v : User} : t.find? u.id = some v →
      TableStep t (.call (.update u)) (Keyed.put t u.id u)
  | deleted {id : UserId} {now : Timestamp} {v : User} : t.find? id = some v →
      TableStep t (.call (.delete id now)) (Keyed.put t id (v.markDeleted now))
  | same {act : StoreAct} : TableStep t act t

theorem table_handle (act : StoreAct) (w : World Repository) :
    TableStep w.store.table act (tableBacking.handle act w).2.store.table := by
  cases act with
  | newUser => exact .same
  | changeMoment => exact .same
  | deletionMoment => exact .same
  | call c =>
    show TableStep _ _ (w.store.run c).2.table
    cases c with
    | find id => exact .same
    | list r => exact .same
    | save u =>
      cases hreply : (w.store.run (.save u)).1 with
      | error e =>
        rw [run_of_error hreply]
        exact .same
      | ok v =>
        obtain ⟨-, hfree, hstore⟩ := run_save_ok hreply
        rw [hstore]
        exact .saved hfree
    | update u =>
      cases hreply : (w.store.run (.update u)).1 with
      | error e =>
        rw [run_of_error hreply]
        exact .same
      | ok v =>
        obtain ⟨-, ⟨v, hv⟩, hstore⟩ := run_update_ok hreply
        rw [hstore]
        exact .updated hv
    | delete id now =>
      cases hreply : (w.store.run (.delete id now)).1 with
      | error e =>
        rw [run_of_error hreply]
        exact .same
      | ok found =>
        cases found with
        | false =>
          rw [run_delete_false hreply]
          exact .same
        | true =>
          obtain ⟨v, hv, hstore⟩ := run_delete_true hreply
          rw [hstore]
          exact .deleted hv

theorem tableAt_concat (w : World Repository) (log : List StoreStep) (step : StoreStep) :
    TableStep (tableAt w log) step.action (tableAt w (log ++ [step])) := by
  simp only [tableAt, reached_snoc]
  exact table_handle step.action _

theorem sound_tableAt {w : World Repository} (h : w.store.table.Sound) (log : List StoreStep) :
    (tableAt w log).Sound := by
  refine after_induction (P := fun w : World Repository => w.store.table.Sound) (fun act w hw => ?_) h _
  cases act with
  | call c =>
    show (w.store.run c).2.table.Sound
    rw [Repository.run_table]
    exact Call.result_sound hw c
  | newUser => exact hw
  | changeMoment => exact hw
  | deletionMoment => exact hw

/-! ### What requests write -/

/-- A record is another one with a name and an address in place of its own, where they are given. -/
structure Amends (name : Option String) (email : Option Email) (v u : User) : Prop where
  id : u.id = v.id
  name : u.name = name.getD v.name
  email : u.email = email.getD v.email
  createdAt : u.createdAt = v.createdAt
  deletedAt : u.deletedAt = v.deletedAt

/-- The request has loaded a record, and this is the record amended. -/
def Amended (w : World Repository) (who : Nat) (name : Option String) (email : Option Email) (u : User)
    (log : List StoreStep) : Prop :=
  ∃ early v, (tableAt w early).find? u.id = some v ∧ Amends name email v u ∧
    early ++ [stepOf tableBacking.handle w early who (.call (.find u.id))] <+: log

/-- Which records requests write: a new user with a name and an address in normal form, or a record that
the request has loaded, amended by a name or an address in normal form. -/
def Writes (w : World Repository) : Rule StoreAct StoreAct.Reply
  | _, _, .call (.save u) => ∃ r : CreateRequest, ∃ name email id now, r.check = .ok () ∧
      normalName r.name = .ok name ∧ normalEmail r.email = .ok email ∧ u = .create id name email now
  | log, who, .call (.update u) => ∃ r : UpdateRequest, ∃ name email, r.check = .ok () ∧
      normalChanges r = .ok (name, email) ∧ Amended w who name email u log
  | _, _, _ => True

/-- A change that has succeeded has loaded a record and written it amended. -/
def Changed (w : World Repository) (who : Nat) (id : UserId) (r : UpdateRequest) (u : User)
    (log : List StoreStep) : Prop :=
  u.id = id ∧ ∃ name email late, normalChanges r = .ok (name, email) ∧
    Amended w who name email u late ∧
    (tableBacking.handle (.call (.update u)) (reached tableBacking.handle w late)).1 = .ok u ∧
    late ++ [stepOf tableBacking.handle w late who (.call (.update u))] <+: log

/-- What a request has done once it is answered, as far as changes go. -/
def Answered (w : World Repository) : (op : Operation) → Nat → List StoreStep → op.Reply → Prop
  | .update id r, who, log, .ok u => Changed w who id r u log
  | _, _, _, _ => True

theorem Amended.mono {w : World Repository} {who : Nat} {name : Option String} {email : Option Email}
    {u : User} {log later : List StoreStep} (h : Amended w who name email u log)
    (hlater : log <+: later) : Amended w who name email u later := by
  obtain ⟨early, v, hv, hamends, hfound⟩ := h
  exact ⟨early, v, hv, hamends, hfound.trans hlater⟩

section Obeys

variable {w : World Repository} {who : Nat} {log : List StoreStep}

theorem obeys_load (id : UserId) :
    (load id).Obeys tableBacking.handle w (Writes w) who
      (fun final reply => ∀ v, reply = .ok v → ∃ early, (tableAt w early).find? id = some v ∧
        early ++ [stepOf tableBacking.handle w early who (.call (.find id))] <+: final) log := by
  simp only [load, call]
  refine (obeys_take fun _ _ _ => trivial).bind ?_
  rintro reply later - ⟨early, -, rfl, hfound⟩
  have hreply : (tableBacking.handle (.call (.find id)) (reached tableBacking.handle w early)).1 =
      .ok ((tableAt w early).find? id) := rfl
  rw [hreply]
  cases hfind : (tableAt w early).find? id with
  | none =>
    intro final hfinal v hv
    cases hv
  | some v =>
    intro final hfinal v' hv'
    cases hv'
    exact ⟨early, hfind, hfound.trans hfinal⟩

/-- A record that is ready is written, and the request is answered with it if that succeeds. -/
theorem obeys_write {id : UserId} {r : UpdateRequest} {name : Option String} {email : Option Email}
    {u : User} (hcheck : r.check = .ok ()) (hnormal : normalChanges r = .ok (name, email))
    (hid : u.id = id) (hready : Amended w who name email u log) :
    (call (.update u)).Obeys tableBacking.handle w (Writes w) who
      (Answered w (.update id r) who) log := by
  intro later hlater hlawful
  have hready' := hready.mono hlater
  refine ⟨⟨r, name, email, hcheck, hnormal, hready'⟩, fun final hfinal => ?_⟩
  cases hreply : (tableBacking.handle (.call (.update u)) (reached tableBacking.handle w later)).1 with
  | error e => exact trivial
  | ok v =>
    have hsame : v = u := (run_update_ok hreply).1
    rw [hsame] at hreply ⊢
    exact ⟨hid, name, email, later, hnormal, hready', hreply, hfinal⟩

theorem obeys_saveChanged {id : UserId} {r : UpdateRequest} {name : Option String}
    {email : Option Email} {v : User} (hcheck : r.check = .ok ())
    (hnormal : normalChanges r = .ok (name, email)) (hid : v.id = id)
    (hready : ∀ u, Amends name email v u → Amended w who name email u log) :
    (saveChanged v name email).Obeys tableBacking.handle w (Writes w) who
      (Answered w (.update id r) who) log := by
  simp only [saveChanged]
  split
  · rename_i hnone
    obtain ⟨hname, hemail⟩ := Bool.and_eq_true_iff.1 hnone
    obtain rfl := Option.isNone_iff_eq_none.1 hname
    obtain rfl := Option.isNone_iff_eq_none.1 hemail
    exact obeys_write hcheck hnormal hid (hready v ⟨rfl, rfl, rfl, rfl, rfl⟩)
  · refine (obeys_take fun _ _ _ => trivial).bind ?_
    rintro now later hlater -
    have hready' := fun u h => (hready u h).mono hlater
    cases name <;> cases email <;> exact
      obeys_write hcheck hnormal hid (hready' _ ⟨rfl, rfl, rfl, rfl, rfl⟩)

theorem obeys_updateUser (h : w.store.table.Sound) (id : UserId) (r : UpdateRequest) :
    (updateUser id r).Obeys tableBacking.handle w (Writes w) who
      (Answered w (.update id r) who) log := by
  simp only [updateUser]
  split
  · exact fun _ _ => trivial
  · rename_i hcheck
    refine (obeys_load id).bind ?_
    rintro (e | v) later - hloaded
    · exact fun _ _ => trivial
    · dsimp only
      split
      · exact fun _ _ => trivial
      · rename_i name email hnormal
        obtain ⟨early, hfind, hfound⟩ := hloaded v rfl
        have hid : v.id = id := (sound_tableAt h early).id_eq (Table.find?_eq_some.1 hfind).1
        refine obeys_saveChanged hcheck hnormal hid fun u hu => ?_
        have huid : u.id = id := hu.id.trans hid
        exact ⟨early, v, huid ▸ hfind, hu, huid ▸ hfound⟩

theorem obeys_createUser (r : CreateRequest) :
    (createUser r).Obeys tableBacking.handle w (Writes w) who (fun _ _ => True) log := by
  simp only [createUser]
  split
  · exact fun _ _ => trivial
  · rename_i name email hnormal
    obtain ⟨⟨⟩, hcheck, hnormal⟩ := bind_eq_ok.1 hnormal
    obtain ⟨name', hname, hnormal⟩ := bind_eq_ok.1 hnormal
    obtain ⟨email', hemail, hnormal⟩ := bind_eq_ok.1 hnormal
    cases hnormal
    simp only [saveNew]
    refine (obeys_take fun _ _ _ => trivial).bind ?_
    rintro ⟨id, now⟩ later - -
    intro last hlast _
    exact ⟨⟨r, name, email, id, now, hcheck, hname, hemail, rfl⟩, fun _ _ => trivial⟩

theorem obeys_deleteUser (id : UserId) :
    (deleteUser id).Obeys tableBacking.handle w (Writes w) who (fun _ _ => True) log := by
  simp only [deleteUser, call]
  refine (obeys_take fun _ _ _ => trivial).bind ?_
  rintro now later - -
  refine (obeys_take fun _ _ _ => trivial).bind ?_
  rintro (e | found) last - -
  · exact fun _ _ => trivial
  · cases found <;> exact fun _ _ => trivial

/-- Every operation writes only what the rule allows. -/
theorem operate_writes (h : w.store.table.Sound) (op : Operation) :
    (operate op).Obeys tableBacking.handle w (Writes w) who (Answered w op who) log := by
  cases op with
  | create r => exact (obeys_createUser r).imp fun _ _ _ _ => trivial
  | get id => exact (obeys_load id).imp fun _ _ _ _ => trivial
  | update id r => exact obeys_updateUser h id r
  | delete id => exact (obeys_deleteUser id).imp fun _ _ _ _ => trivial
  | list r => exact (obeys_take fun _ _ _ => trivial).imp fun _ _ _ _ => trivial

end Obeys

/-! ### What all rows have in common -/

/-- A property of users that requests keep: new users have it, and a user who has it has it still after a
change or a deletion. -/
structure Kept (P : User → Prop) : Prop where
  created {r : CreateRequest} {name : String} {email : Email} {id : UserId} {now : Timestamp} :
    r.check = .ok () → normalName r.name = .ok name → normalEmail r.email = .ok email →
      P (.create id name email now)
  changed {r : UpdateRequest} {name : Option String} {email : Option Email} {v u : User} :
    r.check = .ok () → normalChanges r = .ok (name, email) → Amends name email v u → P v → P u
  deleted {u : User} {now : Timestamp} : P u → P (u.markDeleted now)

section Kept

variable {P : User → Prop} {w : World Repository} {log : List StoreStep}

/-- Every record that a request writes has what is kept, if those that it can have loaded had. -/
theorem Kept.of_writes (h : Kept P) {who : Nat} {act : StoreAct} (hrule : Writes w log who act)
    (hbefore : ∀ early, early <+: log → ∀ id u, Keyed.get? (tableAt w early) id = some u → P u)
    {u : User} (hact : act = .call (.save u) ∨ act = .call (.update u)) : P u := by
  rcases hact with rfl | rfl
  · obtain ⟨r, name, email, id, now, hcheck, hname, hemail, rfl⟩ := hrule
    exact h.created hcheck hname hemail
  · obtain ⟨r, name, email, hcheck, hnormal, early, v, hv, hamends, hfound⟩ := hrule
    have hearly := (List.prefix_append early _).trans hfound
    exact h.changed hcheck hnormal hamends (hbefore early hearly _ v (Table.find?_eq_some.1 hv).1)

/-- What a step of the table does keeps what all rows have, if a record that it writes has it. -/
theorem Kept.step (h : Kept P) {t t' : Table} {act : StoreAct} (hstep : TableStep t act t')
    (hold : ∀ id u, Keyed.get? t id = some u → P u)
    (hwritten : ∀ u, act = .call (.save u) ∨ act = .call (.update u) → P u) :
    ∀ id u, Keyed.get? t' id = some u → P u := by
  have hput : ∀ key v, P v → ∀ id u, Keyed.get? (Keyed.put t key v) id = some u → P u := by
    intro key v hv id u hu
    rw [Keyed.get?_put] at hu
    split at hu
    · cases hu
      exact hv
    · exact hold id u hu
  cases hstep with
  | same => exact hold
  | saved _ => exact hput _ _ (hwritten _ (.inl rfl))
  | updated _ => exact hput _ _ (hwritten _ (.inr rfl))
  | deleted hv => exact hput _ _ (h.deleted (hold _ _ (Table.find?_eq_some.1 hv).1))

/-- If all rows have what is kept at first, they have it after every step. -/
theorem rows_kept (h : Kept P) (hstart : ∀ id u, Keyed.get? w.store.table id = some u → P u)
    (hlawful : Lawful tableBacking.handle w (Writes w) log) :
    ∀ early, early <+: log → ∀ id u, Keyed.get? (tableAt w early) id = some u → P u := by
  induction log using List.reverseRecOn with
  | nil =>
    intro early hearly
    rw [List.prefix_nil.1 hearly]
    exact hstart
  | append_singleton log step ih =>
    have hbefore := ih (hlawful.of_prefix (List.prefix_append _ _))
    intro early hearly
    rcases List.prefix_concat_iff.1 hearly with rfl | hearly
    · have hrule := (hlawful log step (List.prefix_refl _)).2
      exact h.step (tableAt_concat w log step) (hbefore log (List.prefix_refl _))
        fun u => h.of_writes hrule hbefore
    · exact hbefore early hearly

end Kept

/-! ### Crowds of requests -/

/-- Requests to the service on a repository side by side: they come and take their steps as the moves
say. -/
def abreast (moves : List (Move Operation)) (w : World Repository) :
    Crowd Operation Operation.Reply StoreAct StoreAct.Reply (World Repository) :=
  (Crowd.start w).run operate tableBacking.handle moves

theorem abreast_orderly {w : World Repository} (h : w.store.table.Sound)
    (moves : List (Move Operation)) :
    (abreast moves w).Orderly tableBacking.handle w (Writes w)
      (fun op who _ => Answered w op who) :=
  Crowd.Orderly.start.run (fun op _ _ => operate_writes h op) moves

end Roster.Service
