import Roster.Store.Call

/-!
# What every table keeps

A table is *sound* if every user is stored under the id of the record and no two live users have one
address. Every call keeps a sound table sound, and what a call can do to a table is always one thing:
to put one record in the place of a live one, or in a place that was free.

* `onTable_eq_some` says which changes a call can make, and `onTable_sound` that they are sound.
* `get?_onTable_of_deleted` says that a deleted record stays as it is, and `save_of_deleted` and
  `update_of_deleted` that it cannot be saved again.
-/

namespace Roster.Store

open Roster.Time

namespace Table

/-- A table that keeps every user under the id of the record, and every address for one live user. -/
structure Sound (t : Table) : Prop where
  nodup : Keyed.Nodup t
  id_eq {id : UserId} {u : User} : Keyed.get? t id = some u → u.id = id
  emails_apart {u v : User} : u ∈ t.live → v ∈ t.live → u.email = v.email → u = v

theorem sound_nil : Sound [] where
  nodup := List.nodup_nil
  id_eq h := by simp at h
  emails_apart h := by simp [live] at h

/-! ### Live users -/

theorem mem_live {t : Table} {u : User} : u ∈ t.live ↔ (∃ id, (id, u) ∈ t) ∧ u.isLive = true := by
  simp [live]

theorem Sound.mem_live_iff {t : Table} (h : Sound t) {u : User} :
    u ∈ t.live ↔ Keyed.get? t u.id = some u ∧ u.isLive = true := by
  rw [mem_live]
  constructor
  · rintro ⟨⟨id, hm⟩, hl⟩
    have hg := (Keyed.get?_eq_some_iff h.nodup).2 hm
    exact ⟨h.id_eq hg ▸ hg, hl⟩
  · rintro ⟨hg, hl⟩
    exact ⟨⟨u.id, Keyed.mem_of_get?_eq_some hg⟩, hl⟩

theorem find?_eq_some {t : Table} {id : UserId} {u : User} :
    t.find? id = some u ↔ Keyed.get? t id = some u ∧ u.isLive = true := by
  simp [find?, Option.filter_eq_some_iff]

/-- In a sound table the live user under an id is the one that has it. -/
theorem Sound.find?_eq_some_iff {t : Table} (h : Sound t) {id : UserId} {u : User} :
    t.find? id = some u ↔ u ∈ t.live ∧ u.id = id := by
  rw [find?_eq_some, h.mem_live_iff]
  constructor
  · rintro ⟨hg, hl⟩
    obtain rfl := h.id_eq hg
    exact ⟨⟨hg, hl⟩, rfl⟩
  · rintro ⟨hu, rfl⟩
    exact hu

theorem Sound.find?_eq_none_iff {t : Table} (h : Sound t) {id : UserId} :
    t.find? id = none ↔ ∀ u ∈ t.live, u.id ≠ id := by
  rw [Option.eq_none_iff_forall_ne_some]
  constructor
  · intro hnone u hu hid
    exact hnone u (h.find?_eq_some_iff.2 ⟨hu, hid⟩)
  · intro hnone u hu
    obtain ⟨hlive, hid⟩ := h.find?_eq_some_iff.1 hu
    exact hnone u hlive hid

theorem find?_put (t : Table) (key : UserId) (u : User) (id : UserId) :
    find? (Keyed.put t key u) id = if key = id then (some u).filter User.isLive else t.find? id := by
  simp only [find?, Keyed.get?_put]
  split <;> rfl

theorem find?_put_self (t : Table) {u : User} (hlive : u.isLive = true) :
    find? (Keyed.put t u.id u) u.id = some u :=
  find?_eq_some.2 ⟨by rw [Keyed.get?_put, if_pos rfl], hlive⟩

theorem live_put (t : Table) (key : UserId) (u : User) :
    live (Keyed.put t key u) = if u.isLive then u :: live (Keyed.erase t key)
      else live (Keyed.erase t key) := by
  simp only [live, Keyed.put, List.map_cons, List.filter_cons]

theorem Sound.mem_live_erase {t : Table} (h : Sound t) {key : UserId} {u : User} :
    u ∈ live (Keyed.erase t key) ↔ u ∈ t.live ∧ u.id ≠ key := by
  simp only [mem_live, Keyed.erase, List.mem_filter, decide_eq_true_eq]
  have hkey : ∀ {id}, (id, u) ∈ t → u.id = id :=
    fun hm => h.id_eq ((Keyed.get?_eq_some_iff h.nodup).2 hm)
  constructor
  · rintro ⟨⟨id, hm, hne⟩, hlive⟩
    exact ⟨⟨⟨id, hm⟩, hlive⟩, hkey hm ▸ hne⟩
  · rintro ⟨⟨⟨id, hm⟩, hlive⟩, hne⟩
    exact ⟨⟨id, hm, hkey hm ▸ hne⟩, hlive⟩

theorem find?_eq_none_of_deleted {t : Table} {id : UserId} {u : User}
    (hg : Keyed.get? t id = some u) (hd : u.isDeleted = true) : t.find? id = none := by
  have hl : u.isLive = false := by
    simp only [User.isDeleted] at hd
    simp only [User.isLive]
    cases h : u.deletedAt <;> simp_all
  simp [find?, hg, Option.filter, hl]

/-- A place that a record can be put in: no deleted record is there, and no other live user has the
address. -/
structure Admits (t : Table) (u : User) : Prop where
  live_of_get? {v : User} : Keyed.get? t u.id = some v → v.isLive = true
  email_free : u.isLive = true → ∀ v ∈ t.live, v.email = u.email → v.id = u.id

/-- Putting a record in a place that admits it keeps the table sound. -/
theorem Sound.put {t : Table} (h : Sound t) {u : User} (ha : Admits t u) :
    Sound (Keyed.put t u.id u) := by
  have hn := Keyed.nodup_put h.nodup u.id u
  have hid : ∀ {id : UserId} {v : User}, Keyed.get? (Keyed.put t u.id u) id = some v → v.id = id := by
    intro id v hv
    rw [Keyed.get?_put] at hv
    split at hv
    · rename_i he
      rw [← Option.some.inj hv]
      exact he
    · exact h.id_eq hv
  -- A live user of the new table is the new record, or one of the old table under another id.
  have hlive : ∀ {v : User}, v ∈ live (Keyed.put t u.id u) →
      v = u ∧ u.isLive = true ∨ v.id ≠ u.id ∧ v ∈ t.live := by
    intro v hv
    obtain ⟨⟨id, hm⟩, hl⟩ := mem_live.1 hv
    have hg := (Keyed.get?_eq_some_iff hn).2 hm
    have hvid := hid hg
    rw [Keyed.get?_put] at hg
    split at hg
    · have hvu := Option.some.inj hg
      exact Or.inl ⟨hvu.symm, hvu ▸ hl⟩
    · rename_i hne
      refine Or.inr ⟨fun he => hne (he ▸ hvid), h.mem_live_iff.2 ⟨hvid ▸ hg, hl⟩⟩
  refine ⟨hn, hid, fun {v w} hv hw he => ?_⟩
  rcases hlive hv with ⟨rfl, hl⟩ | ⟨hvn, hvl⟩ <;> rcases hlive hw with ⟨rfl, hl'⟩ | ⟨hwn, hwl⟩
  · rfl
  · exact absurd (ha.email_free hl w hwl he.symm) hwn
  · exact absurd (ha.email_free hl' v hvl he) hvn
  · exact h.emails_apart hvl hwl he

/-! ### The three changes -/

/-- A new user is refused for its id, refused for its address, or put in the table. -/
theorem insert_cases (t : Table) (u : User) :
    ((∃ v, Keyed.get? t u.id = some v) ∧ t.insert u = .error (idTaken u.id)) ∨
    (Keyed.get? t u.id = none ∧ (∃ v ∈ t.live, v.email = u.email) ∧
      t.insert u = .error (emailTaken u.email)) ∨
    (Keyed.get? t u.id = none ∧ (∀ v ∈ t.live, v.email ≠ u.email) ∧
      t.insert u = .ok (Keyed.put t u.id u)) := by
  simp only [insert]
  rw [Keyed.has_eq_isSome]
  cases hget : Keyed.get? t u.id with
  | some v => exact .inl ⟨⟨v, rfl⟩, rfl⟩
  | none =>
    rw [if_neg (by simp)]
    by_cases htaken : ∃ v ∈ t.live, v.email = u.email
    · exact .inr (.inl ⟨rfl, htaken, if_pos (by simpa using htaken)⟩)
    · exact .inr (.inr ⟨rfl, by simpa using htaken, if_neg (by simpa using htaken)⟩)

theorem insert_eq_ok {t t' : Table} {u : User} (h : t.insert u = .ok t') :
    Keyed.get? t u.id = none ∧ (∀ v ∈ t.live, v.email ≠ u.email) ∧ t' = Keyed.put t u.id u := by
  rcases insert_cases t u with ⟨-, he⟩ | ⟨-, -, he⟩ | ⟨hfree, hemail, he⟩ <;> rw [he] at h <;> cases h
  exact ⟨hfree, hemail, rfl⟩

/-- Another record of a user is refused if there is no such live user or another one has the address, or
takes the place of the one that is there. -/
theorem update_cases (t : Table) (u : User) :
    (t.find? u.id = none ∧ t.update u = .error (.noUser u.id)) ∨
    ((∃ v, t.find? u.id = some v) ∧ (∃ v ∈ t.live, v.id ≠ u.id ∧ v.email = u.email) ∧
      t.update u = .error (emailTaken u.email)) ∨
    ((∃ v, t.find? u.id = some v) ∧ (∀ v ∈ t.live, v.email = u.email → v.id = u.id) ∧
      t.update u = .ok (Keyed.put t u.id u)) := by
  simp only [update]
  cases hfind : t.find? u.id with
  | none => exact .inl ⟨rfl, rfl⟩
  | some v =>
    rw [if_neg (by simp)]
    by_cases htaken : ∃ v ∈ t.live, v.id ≠ u.id ∧ v.email = u.email
    · exact .inr (.inl ⟨⟨v, rfl⟩, htaken, if_pos (by simpa using htaken)⟩)
    · refine .inr (.inr ⟨⟨v, rfl⟩, fun o ho he => ?_, if_neg (by simpa using htaken)⟩)
      exact Decidable.byContradiction fun hne => htaken ⟨o, ho, hne, he⟩

theorem update_eq_ok {t t' : Table} {u : User} (h : t.update u = .ok t') :
    (∃ v, t.find? u.id = some v) ∧ (∀ v ∈ t.live, v.email = u.email → v.id = u.id) ∧
      t' = Keyed.put t u.id u := by
  rcases update_cases t u with ⟨-, he⟩ | ⟨-, -, he⟩ | ⟨hthere, hemail, he⟩ <;> rw [he] at h <;> cases h
  exact ⟨hthere, hemail, rfl⟩

theorem softDelete?_eq_some {t t' : Table} {id : UserId} {now : Timestamp}
    (h : t.softDelete? id now = some t') :
    ∃ v, t.find? id = some v ∧ t' = Keyed.put t id (v.markDeleted now) := by
  obtain ⟨v, hv, rfl⟩ := Option.map_eq_some_iff.1 h
  exact ⟨v, hv, rfl⟩

end Table

/-! ### Calls -/

namespace Call

/-- A call that changes a sound table puts one record in a place that admits it. -/
theorem onTable_eq_some {t t' : Table} (ht : t.Sound) {c : Call} (h : (c.onTable t).2 = some t') :
    ∃ u, t.Admits u ∧ t' = Keyed.put t u.id u := by
  cases c with
  | save u =>
    simp only [onTable] at h
    cases hi : t.insert u with
    | error e => rw [hi] at h; cases h
    | ok s =>
      rw [hi] at h
      obtain ⟨hfree, hemail, hs⟩ := Table.insert_eq_ok hi
      refine ⟨u, ⟨fun hg => ?_, fun _ v hv he => absurd he (hemail v hv)⟩, ?_⟩
      · rw [hfree] at hg
        cases hg
      · rw [← Option.some.inj h, hs]
  | find id => cases h
  | update u =>
    simp only [onTable] at h
    cases hu : t.update u with
    | error e => rw [hu] at h; cases h
    | ok s =>
      rw [hu] at h
      obtain ⟨⟨v, hv⟩, hemail, hs⟩ := Table.update_eq_ok hu
      obtain ⟨hg, hl⟩ := Table.find?_eq_some.1 hv
      refine ⟨u, ⟨fun {w} hw => ?_, fun _ => hemail⟩, ?_⟩
      · rw [hg] at hw
        exact Option.some.inj hw ▸ hl
      · rw [← Option.some.inj h, hs]
  | delete id now =>
    simp only [onTable] at h
    cases hd : t.softDelete? id now with
    | none => rw [hd] at h; cases h
    | some s =>
      rw [hd] at h
      obtain ⟨v, hv, hs⟩ := Table.softDelete?_eq_some hd
      obtain ⟨hg, hl⟩ := Table.find?_eq_some.1 hv
      have hid : (v.markDeleted now).id = id := show v.id = id from ht.id_eq hg
      refine ⟨v.markDeleted now, ⟨fun {w} hw => ?_, fun hdead => ?_⟩, ?_⟩
      · rw [hid, hg] at hw
        exact Option.some.inj hw ▸ hl
      · simp [User.isLive, User.markDeleted] at hdead
      · rw [← Option.some.inj h, hs, hid]
  | list r => cases h

theorem onTable_sound {t t' : Table} (ht : t.Sound) {c : Call} (h : (c.onTable t).2 = some t') :
    t'.Sound := by
  obtain ⟨u, ha, rfl⟩ := onTable_eq_some ht h
  exact ht.put ha

/-- No record is lost. -/
theorem get?_onTable_isSome {t t' : Table} (ht : t.Sound) {c : Call}
    (h : (c.onTable t).2 = some t') {id : UserId} (hid : (Keyed.get? t id).isSome = true) :
    (Keyed.get? t' id).isSome = true := by
  obtain ⟨u, -, rfl⟩ := onTable_eq_some ht h
  rw [Keyed.get?_put]
  split
  · rfl
  · exact hid

/-- A deleted record stays as it is. -/
theorem get?_onTable_of_deleted {t t' : Table} (ht : t.Sound) {c : Call}
    (h : (c.onTable t).2 = some t') {id : UserId} {v : User} (hv : Keyed.get? t id = some v)
    (hd : v.isDeleted = true) : Keyed.get? t' id = some v := by
  obtain ⟨u, ha, rfl⟩ := onTable_eq_some ht h
  rw [Keyed.get?_put, if_neg ?_, hv]
  intro he
  have hl := ha.live_of_get? (he ▸ hv)
  simp only [User.isLive, User.isDeleted, Option.isNone_iff_eq_none] at hl hd
  simp [hl] at hd

/-- Nothing is saved under the id of a deleted record. -/
theorem save_of_deleted {t : Table} {u v : User} (hv : Keyed.get? t u.id = some v) :
    (Call.save u).onTable t = (.error (Table.idTaken u.id), none) := by
  have : t.insert u = .error (Table.idTaken u.id) := by
    simp only [Table.insert]
    rw [Keyed.has_eq_isSome, hv]
    rfl
  simp [onTable, this]

/-- A deleted record is not replaced. -/
theorem update_of_deleted {t : Table} {u v : User} (hv : Keyed.get? t u.id = some v)
    (hd : v.isDeleted = true) : (Call.update u).onTable t = (.error (.noUser u.id), none) := by
  have : t.update u = .error (.noUser u.id) := by
    simp only [Table.update]
    rw [Table.find?_eq_none_of_deleted hv hd]
    rfl
  simp [onTable, this]

end Call

end Roster.Store
