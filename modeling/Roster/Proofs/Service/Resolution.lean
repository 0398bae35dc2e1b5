import Roster.Proofs.Service.Exactness

/-!
# Creations and changes alike

A creation and a change bring a name and an address to their normal forms on ways of their own: the one
is given all fields and makes a record, the other is given some of them and writes over a record. What
comes of the fields is the same on both ways, be it a name and an address or an error.

* `resolved` says what comes of the fields of a request, given the own ones and the addresses that are
  taken; `create_resolved` and `update_resolved` say that both operations answer so.
* `Without` is a table without one of its live users.
* `resolved_in_turn` says that different fields may be changed together or in turn.
* `fields_resolved_alike` puts it together, for every state that a repository can be in.
-/

namespace Roster.Service

open Roster.Store Roster.Text

/-! ### What comes of the fields -/

/-- The name and the address of a user. -/
def given (u : User) : String × Email := (u.name, u.email)

/-- A name and an address, unless the address is taken. -/
def unlessTaken (taken : Email → Bool) (fields : String × Email) : Except Failure (String × Email) :=
  if taken fields.2 then .error (Table.emailTaken fields.2) else .ok fields

/-- What comes of the fields of a request: a name and an address, the own ones where none are given, or
the first thing that speaks against them. -/
def resolved (own : String × Email) (taken : Email → Bool) (r : UpdateRequest) :
    Except Failure (String × Email) := do
  r.check
  let (name, email) ← normalChanges r
  unlessTaken taken (name.getD own.1, email.getD own.2)

theorem unlessTaken_eq_ok {taken : Email → Bool} {fields fields' : String × Email} :
    unlessTaken taken fields = .ok fields' ↔ fields' = fields ∧ taken fields.2 = false := by
  simp only [unlessTaken]
  cases taken fields.2 with
  | true => exact ⟨fun h => (nomatch h), fun h => nomatch h.2⟩
  | false => exact ⟨fun h => ⟨(Except.ok.inj h).symm, rfl⟩, fun h => congrArg Except.ok h.1.symm⟩

theorem resolved_eq_ok {own fields : String × Email} {taken : Email → Bool} {r : UpdateRequest} :
    resolved own taken r = .ok fields ↔ ¬r.TooLong ∧ ¬r.Unusable ∧
      fields.1 = (r.name.map trimmed).getD own.1 ∧
      fields.2.text = (r.email.map Email.normalForm).getD own.2.text ∧ taken fields.2 = false := by
  simp only [resolved, bind_eq_ok]
  constructor
  · rintro ⟨⟨⟩, hcheck, ⟨name, email⟩, hchanges, hfields⟩
    obtain ⟨husable, rfl, hemail⟩ := normalChanges_eq_ok.1 hchanges
    obtain ⟨rfl, hfree⟩ := unlessTaken_eq_ok.1 hfields
    refine ⟨UpdateRequest.check_eq_ok.1 hcheck, husable, rfl, ?_, hfree⟩
    rw [← hemail, Option.getD_map]
  · rintro ⟨hshort, husable, hname, hemail, hfree⟩
    obtain ⟨name, email, hchanges⟩ := exists_normalChanges_iff.2 husable
    obtain ⟨-, rfl, hform⟩ := normalChanges_eq_ok.1 hchanges
    have hsame : fields.2 = email.getD own.2 := by
      apply Email.eq_of_text
      rw [hemail, ← hform, Option.getD_map]
    refine ⟨(), UpdateRequest.check_eq_ok.2 hshort, _, hchanges, ?_⟩
    exact unlessTaken_eq_ok.2 ⟨Prod.ext hname hsame, hsame ▸ hfree⟩

/-- If all fields are given, the own ones make no difference. -/
theorem resolved_fields (own : String × Email) (taken : Email → Bool) (r : CreateRequest) :
    resolved own taken r.fields = checkedFields r >>= unlessTaken taken := by
  simp only [resolved, checkedFields, normalChanges, CreateRequest.fields, r.check_eq,
    Option.mapM_some]
  cases UpdateRequest.check ⟨some r.name, some r.email⟩ with
  | error e => rfl
  | ok _ =>
    cases normalName r.name with
    | error e => rfl
    | ok name =>
      cases normalEmail r.email with
      | error e => rfl
      | ok email => rfl

/-- Of two options at most one of which is something, it makes no difference which comes first. -/
theorem getD_or {α β : Type} {a b : Option α} (h : a = none ∨ b = none) (f : α → β) (d : β) :
    ((a.or b).map f).getD d = (b.map f).getD ((a.map f).getD d) := by
  rcases h with rfl | rfl
  · rw [Option.none_or, Option.map_none, Option.getD_none]
  · rw [Option.or_none, Option.map_none, Option.getD_none]

/-- Changes of different fields come to the same in turn as in one. -/
theorem resolved_in_turn {own fields : String × Email} {taken : Email → Bool}
    {first second : UpdateRequest} (hapart : first.Apart second) (hown : taken own.2 = false) :
    (∃ between, resolved own taken first = .ok between ∧
      resolved between taken second = .ok fields) ↔
    resolved own taken (first.joined second) = .ok fields := by
  constructor
  · rintro ⟨between, hfirst, hsecond⟩
    obtain ⟨hshort, husable, hname, hemail, -⟩ := resolved_eq_ok.1 hfirst
    obtain ⟨hshort', husable', hname', hemail', hfree⟩ := resolved_eq_ok.1 hsecond
    refine resolved_eq_ok.2 ⟨?_, ?_, ?_, ?_, hfree⟩
    · exact hapart.tooLong_joined.not.2 (not_or.2 ⟨hshort, hshort'⟩)
    · exact hapart.unusable_joined.not.2 (not_or.2 ⟨husable, husable'⟩)
    · rw [hname', hname]
      exact (getD_or hapart.name _ _).symm
    · rw [hemail', hemail]
      exact (getD_or hapart.email _ _).symm
  · intro hfields
    obtain ⟨hshort, husable, hname, hemail, hfree⟩ := resolved_eq_ok.1 hfields
    obtain ⟨hshort, hshort'⟩ := not_or.1 (hapart.tooLong_joined.not.1 hshort)
    obtain ⟨husable, husable'⟩ := not_or.1 (hapart.unusable_joined.not.1 husable)
    -- the address in between is the own one or the last one, and neither is taken
    have hbetween : ∃ e : Email, e.text = (first.email.map Email.normalForm).getD own.2.text ∧
        fields.2.text = (second.email.map Email.normalForm).getD e.text ∧ taken e = false := by
      simp only [UpdateRequest.joined] at hemail
      rcases hapart.email with hnone | hnone
      · rw [hnone, Option.none_or] at hemail
        exact ⟨own.2, by rw [hnone]; rfl, hemail, hown⟩
      · rw [hnone, Option.or_none] at hemail
        exact ⟨fields.2, hemail, by rw [hnone]; rfl, hfree⟩
    obtain ⟨e, hfirst, hsecond, he⟩ := hbetween
    refine ⟨((first.name.map trimmed).getD own.1, e),
      resolved_eq_ok.2 ⟨hshort, husable, rfl, hfirst, he⟩,
      resolved_eq_ok.2 ⟨hshort', husable', ?_, hsecond, hfree⟩⟩
    rw [hname]
    exact getD_or hapart.name _ _

/-! ### Both operations answer so -/

/-- Whether a live user has an address. -/
def inUse (t : Table) (e : Email) : Bool := t.live.any (·.email = e)

/-- Whether a live user under another id has an address. -/
def inUseBeside (t : Table) (id : UserId) (e : Email) : Bool :=
  t.live.any fun v => v.id ≠ id && v.email = e

theorem inUse_iff {t : Table} {e : Email} : inUse t e = true ↔ ∃ v ∈ t.live, v.email = e := by
  simp [inUse]

theorem inUseBeside_iff {t : Table} {id : UserId} {e : Email} :
    inUseBeside t id e = true ↔ ∃ v ∈ t.live, v.id ≠ id ∧ v.email = e := by
  simp [inUseBeside]

theorem save_given {t : Table} {u : User} (hfree : Keyed.get? t u.id = none) :
    ((Call.save u).onTable t).1.map given = unlessTaken (inUse t) (given u) := by
  rcases Table.insert_cases t u with ⟨⟨v, hv⟩, -⟩ | ⟨-, htaken, he⟩ | ⟨-, hothers, he⟩
  · rw [hfree] at hv
    cases hv
  · have htaken : inUse t u.email = true := inUse_iff.2 htaken
    simp only [Call.onTable, he, unlessTaken, given, htaken]
    rfl
  · have hapart : inUse t u.email = false :=
      Bool.eq_false_iff.2 fun h => by
        obtain ⟨v, hv, hsame⟩ := inUse_iff.1 h
        exact hothers v hv hsame
    simp only [Call.onTable, he, unlessTaken, given, hapart]
    rfl

theorem update_given {t : Table} {u v : User} (hthere : t.find? u.id = some v) :
    ((Call.update u).onTable t).1.map given = unlessTaken (inUseBeside t u.id) (given u) := by
  rcases Table.update_cases t u with ⟨hnone, -⟩ | ⟨-, htaken, he⟩ | ⟨-, hothers, he⟩
  · rw [hthere] at hnone
    cases hnone
  · have htaken : inUseBeside t u.id u.email = true := inUseBeside_iff.2 htaken
    simp only [Call.onTable, he, unlessTaken, given, htaken]
    rfl
  · have hapart : inUseBeside t u.id u.email = false :=
      Bool.eq_false_iff.2 fun h => by
        obtain ⟨o, ho, hother, hsame⟩ := inUseBeside_iff.1 h
        exact hother (hothers o ho hsame)
    simp only [Call.onTable, he, unlessTaken, given, hapart]
    rfl

section Operations

variable {w : World Repository}

theorem create_resolved {r : CreateRequest}
    (hfree : Keyed.get? w.store.table w.stamps.newUser.1.1 = none) (own : String × Email) :
    ((base tableBacking).run (.create r) w).1.map given =
      resolved own (inUse w.store.table) r.fields := by
  show ((createUser r).run tableBacking.handle w).1.map given = _
  rw [createUser_eq, resolved_fields]
  cases checkedFields r with
  | error e => rfl
  | ok fields =>
    obtain ⟨name, email⟩ := fields
    show (w.store.run (.save (.create w.stamps.newUser.1.1 name email _))).1.map given = _
    rw [Repository.run_fst]
    exact save_given hfree

theorem update_resolved {id : UserId} {u : User} (hu : w.store.table.find? id = some u)
    (hid : u.id = id) (r : UpdateRequest) :
    ((base tableBacking).run (.update id r) w).1.map given =
      resolved (given u) (inUseBeside w.store.table id) r := by
  show ((updateUser id r).run tableBacking.handle w).1.map given = _
  simp only [updateUser, resolved]
  cases r.check with
  | error e => rfl
  | ok _ =>
    dsimp only
    rw [Program.run_monad_bind, run_load, hu]
    dsimp only
    cases normalChanges r with
    | error e => rfl
    | ok changes =>
      obtain ⟨name, email⟩ := changes
      obtain ⟨stamps, hrun⟩ := run_saveChanged u name email w
      obtain rfl := hid
      dsimp only
      rw [hrun, Repository.run_fst]
      exact update_given (u := amended u name email w.stamps.change.1) hu

/-- A user who is given in answer to a request is the one who is stored under the id. -/
def Stored (id : UserId) (result : Except Failure User × World Repository) : Prop :=
  ∀ v, result.1 = .ok v → result.2.store.table.find? id = some v

theorem create_stored (r : CreateRequest) (w : World Repository) :
    Stored w.stamps.newUser.1.1 ((base tableBacking).run (.create r) w) := by
  intro v hv
  have hid : v.id = w.stamps.newUser.1.1 := by
    have hreply := creation w r
    rw [hv] at hreply
    generalize ((base tableBacking).run (.create r) w).2.store = after at hreply
    cases hreply
    rfl
  obtain ⟨hlive, -, hstore⟩ := base_create_ok hv
  rw [hstore, ← hid]
  exact Table.find?_put_self _ hlive

theorem update_stored (h : w.store.table.Sound) (id : UserId) (r : UpdateRequest) :
    Stored id ((base tableBacking).run (.update id r) w) := by
  intro v hv
  obtain ⟨u, hu, hvid, hlive, hstore⟩ := base_update_ok hv
  have hid := hvid.trans (h.find?_eq_some_iff.1 hu).2
  rw [hstore, ← hid]
  exact Table.find?_put_self _ hlive

end Operations

/-! ### A table without one of its live users -/

/-- A table has the live users of another one, but for the one under an id. -/
def Without (t rest : Table) (id : UserId) : Prop := ∀ v, v ∈ rest.live ↔ v ∈ t.live ∧ v.id ≠ id

section Without

variable {t rest : Table} {id : UserId}

theorem inUse_of_without (h : Without t rest id) : inUse rest = inUseBeside t id := by
  funext e
  rw [Bool.eq_iff_iff, inUse_iff, inUseBeside_iff]
  simp only [h _, and_assoc]

/-- The row of a user can be taken away. -/
theorem without_erase (h : t.Sound) (id : UserId) : Without t (Keyed.erase t id) id :=
  fun _ => h.mem_live_erase

/-- A user can be deleted. -/
theorem without_deleted {w : World Repository} (h : w.store.table.Sound)
    (hdeleted : ((base tableBacking).run (.delete id) w).1 = .ok ()) :
    Without w.store.table ((base tableBacking).run (.delete id) w).2.store.table id := by
  obtain ⟨v, now, -, hstore⟩ := base_delete_ok hdeleted
  have hgone : ¬(v.markDeleted now).isLive = true := Bool.false_ne_true
  intro u
  rw [hstore, Table.live_put, if_neg hgone]
  exact h.mem_live_erase

end Without

/-! ### Changes in turn -/

/-- Two changes of a user, the second if the first is accepted. -/
def changeInTurn (id : UserId) (first second : UpdateRequest) (w : World Repository) :
    Except Failure User × World Repository :=
  match (base tableBacking).run (.update id first) w with
  | (.error e, w') => (.error e, w')
  | (.ok _, w') => (base tableBacking).run (.update id second) w'

section Turns

variable {w : World Repository} {id : UserId}

/-- A change takes and frees no address but the user's own. -/
theorem inUseBeside_put {t : Table} (h : t.Sound) {v : User} (hid : v.id = id) :
    inUseBeside (Keyed.put t v.id v) id = inUseBeside t id := by
  funext e
  rw [Bool.eq_iff_iff, inUseBeside_iff, inUseBeside_iff, Table.live_put]
  constructor
  · rintro ⟨o, ho, hother, hsame⟩
    have ho : o ∈ Table.live (Keyed.erase t v.id) := by
      split at ho
      · exact (List.mem_cons.1 ho).resolve_left fun hov => hother (hov ▸ hid)
      · exact ho
    exact ⟨o, (h.mem_live_erase.1 ho).1, hother, hsame⟩
  · rintro ⟨o, ho, hother, hsame⟩
    have ho := h.mem_live_erase.2 ⟨ho, hid ▸ hother⟩
    refine ⟨o, ?_, hother, hsame⟩
    split
    · exact List.mem_cons_of_mem _ ho
    · exact ho

/-- Nobody else has a user's own address. -/
theorem not_inUseBeside_own {t : Table} (h : t.Sound) {u : User} (hu : t.find? id = some u) :
    inUseBeside t id u.email = false := by
  obtain ⟨hlive, hid⟩ := h.find?_eq_some_iff.1 hu
  refine Bool.eq_false_iff.2 fun htaken => ?_
  obtain ⟨o, ho, hother, hsame⟩ := inUseBeside_iff.1 htaken
  exact hother ((h.emails_apart ho hlive hsame) ▸ hid)

/-- The second of two changes starts from what the first has left. -/
theorem changeInTurn_eq_ok (h : w.store.table.Sound) {u : User} (hu : w.store.table.find? id = some u)
    {first second : UpdateRequest} {fields : String × Email} :
    (changeInTurn id first second w).1.map given = .ok fields ↔
      ∃ between, resolved (given u) (inUseBeside w.store.table id) first = .ok between ∧
        resolved between (inUseBeside w.store.table id) second = .ok fields := by
  have hid := (h.find?_eq_some_iff.1 hu).2
  have hfirst := update_resolved hu hid first
  have hstored := update_stored h id first
  have hsound := base_sound h (.update id first)
  have hok := fun v => @base_update_ok id first w v
  simp only [changeInTurn]
  generalize (base tableBacking).run (.update id first) w = result at hfirst hstored hsound hok ⊢
  obtain ⟨reply, w'⟩ := result
  cases reply with
  | error e =>
    rw [← hfirst]
    exact iff_of_false (fun h => nomatch h) fun ⟨_, h, _⟩ => nomatch h
  | ok v =>
    obtain ⟨-, -, -, -, hstore⟩ := hok v rfl
    have hv := hstored v rfl
    have hvid := (hsound.find?_eq_some_iff.1 hv).2
    have hbeside : inUseBeside w'.store.table id = inUseBeside w.store.table id := by
      rw [hstore]
      exact inUseBeside_put h hvid
    dsimp only
    rw [update_resolved hv hvid second, hbeside, ← hfirst]
    constructor
    · intro hsecond
      exact ⟨given v, rfl, hsecond⟩
    · rintro ⟨between, hbetween, hsecond⟩
      cases hbetween
      exact hsecond

theorem changeInTurn_stored (h : w.store.table.Sound) (id : UserId) (first second : UpdateRequest) :
    Stored id (changeInTurn id first second w) := by
  have hsound := base_sound h (.update id first)
  simp only [changeInTurn]
  generalize (base tableBacking).run (.update id first) w = result at hsound ⊢
  obtain ⟨reply, w'⟩ := result
  cases reply with
  | error e => exact fun v hv => nomatch hv
  | ok v => exact update_stored hsound id second

end Turns

/-! ### Every state of a repository -/

/-- **Creations and changes are alike.**  In every state that calls and units of work lead to, a live user
is given a name and an address by a change exactly as a new user would be without that user: the answer is
the same name and address, or the same error. Who is answered is who is stored. It makes no difference
whether both are given in one change or in two, in either order. -/
theorem fields_resolved_alike (events : List Event) (stamps : Stamps) (u : User)
    (hu : u ∈ (worldAfter events stamps).store.table.live) (name email : String) :
    (∀ rest : World Repository, Without (worldAfter events stamps).store.table rest.store.table u.id →
      Keyed.get? rest.store.table rest.stamps.newUser.1.1 = none →
      ((base tableBacking).run (.create ⟨name, email⟩) rest).1.map given =
        ((base tableBacking).run (.update u.id ⟨some name, some email⟩)
          (worldAfter events stamps)).1.map given ∧
      Stored rest.stamps.newUser.1.1 ((base tableBacking).run (.create ⟨name, email⟩) rest)) ∧
    Stored u.id ((base tableBacking).run (.update u.id ⟨some name, some email⟩)
      (worldAfter events stamps)) ∧
    (∀ fields, (changeInTurn u.id ⟨some name, none⟩ ⟨none, some email⟩
        (worldAfter events stamps)).1.map given = .ok fields ↔
      ((base tableBacking).run (.update u.id ⟨some name, some email⟩)
        (worldAfter events stamps)).1.map given = .ok fields) ∧
    (∀ fields, (changeInTurn u.id ⟨none, some email⟩ ⟨some name, none⟩
        (worldAfter events stamps)).1.map given = .ok fields ↔
      ((base tableBacking).run (.update u.id ⟨some name, some email⟩)
        (worldAfter events stamps)).1.map given = .ok fields) ∧
    Stored u.id (changeInTurn u.id ⟨some name, none⟩ ⟨none, some email⟩ (worldAfter events stamps)) ∧
    Stored u.id (changeInTurn u.id ⟨none, some email⟩ ⟨some name, none⟩
      (worldAfter events stamps)) := by
  have hsound := sound_worldAfter events stamps
  generalize worldAfter events stamps = w at hu hsound ⊢
  have hfind := hsound.find?_eq_some_iff.2 ⟨hu, rfl⟩
  have hboth := update_resolved hfind rfl ⟨some name, some email⟩
  refine ⟨?_, update_stored hsound _ _, ?_, ?_, changeInTurn_stored hsound _ _ _,
    changeInTurn_stored hsound _ _ _⟩
  · intro rest hwithout hfree
    refine ⟨?_, create_stored _ _⟩
    calc ((base tableBacking).run (.create ⟨name, email⟩) rest).1.map given
        = resolved (given u) (inUse rest.store.table) ⟨some name, some email⟩ :=
          create_resolved hfree (given u)
      _ = resolved (given u) (inUseBeside w.store.table u.id) ⟨some name, some email⟩ := by
          rw [inUse_of_without hwithout]
      _ = _ := hboth.symm
  · intro fields
    rw [changeInTurn_eq_ok hsound hfind, hboth]
    exact resolved_in_turn ⟨.inr rfl, .inl rfl⟩ (not_inUseBeside_own hsound hfind)
  · intro fields
    rw [changeInTurn_eq_ok hsound hfind, hboth]
    exact resolved_in_turn ⟨.inl rfl, .inr rfl⟩ (not_inUseBeside_own hsound hfind)

/-- Calls for a trial: two users are saved. -/
def resolutionSaves : List Event :=
  let ivo : Email := ⟨"ivo@x.com", by decide +kernel, by decide +kernel⟩
  let uma : Email := ⟨"uma@x.com", by decide +kernel, by decide +kernel⟩
  [.direct (.save (.create (.inSeries 3) "Ivo" ivo (Stamps.still.moments 3))),
    .direct (.save (.create (.inSeries 4) "Uma" uma (Stamps.still.moments 4)))]

/-- Once the row of the first user is taken away, a name and an address are accepted for a new user as for
that one; once that user is deleted, the address of the other one is refused as it was before. -/
theorem fields_resolved_alike_in_trial :
    (((base tableBacking).run (.create ⟨" Iva ", "IVA@x.com"⟩)
        ⟨⟨Keyed.erase (worldAfter resolutionSaves Stamps.still).store.table (.inSeries 3), 0⟩,
          Stamps.still⟩).1.map given =
      ((base tableBacking).run (.update (.inSeries 3) ⟨some " Iva ", some "IVA@x.com"⟩)
        (worldAfter resolutionSaves Stamps.still)).1.map given ∧
      ((base tableBacking).run (.update (.inSeries 3) ⟨some " Iva ", some "IVA@x.com"⟩)
        (worldAfter resolutionSaves Stamps.still)).1.map (fun v => (v.name, v.email.text)) =
          .ok ("Iva", "iva@x.com")) ∧
    ((base tableBacking).run (.create ⟨"Iva", "Uma@x.com"⟩)
        ((base tableBacking).run (.delete (.inSeries 3))
          (worldAfter resolutionSaves Stamps.still)).2).1.map given =
      ((base tableBacking).run (.update (.inSeries 3) ⟨some "Iva", some "Uma@x.com"⟩)
        (worldAfter resolutionSaves Stamps.still)).1.map given ∧
      ((base tableBacking).run (.update (.inSeries 3) ⟨some "Iva", some "Uma@x.com"⟩)
        (worldAfter resolutionSaves Stamps.still)).1.map given =
          .error (.conflict "Email 'uma@x.com' already exists") := by
  have hsound := sound_worldAfter resolutionSaves Stamps.still
  have hthere : ((worldAfter resolutionSaves Stamps.still).store.table.find?
      (.inSeries 3)).map User.name = some "Ivo" := by decide +kernel
  have hdeleted : ((base tableBacking).run (.delete (.inSeries 3))
      (worldAfter resolutionSaves Stamps.still)).1 = .ok () := by decide +kernel
  obtain ⟨u, hu, -⟩ := Option.map_eq_some_iff.1 hthere
  obtain ⟨hlive, hid⟩ := hsound.find?_eq_some_iff.1 hu
  have halike := fun name email =>
    (fields_resolved_alike resolutionSaves Stamps.still u hlive name email).1
  rw [hid] at halike
  refine ⟨⟨?_, by decide +kernel⟩, ?_, by decide +kernel⟩
  · exact (halike " Iva " "IVA@x.com" _ (without_erase hsound (.inSeries 3)) (by decide +kernel)).1
  · exact (halike "Iva" "Uma@x.com" _ (without_deleted hsound hdeleted) (by decide +kernel)).1

end Roster.Service
