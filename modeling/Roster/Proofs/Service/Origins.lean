import Roster.Proofs.Cache.Keys
import Roster.Proofs.Cache.Payload
import Roster.Proofs.Cache.Tiers
import Roster.Proofs.Service.Base
import Roster.Proofs.Service.Cached

/-!
# Where cached values come from

What an operation of the service with a cache does to the state, in terms that no longer depend on the
operation.

* `step_behind` says that the service behind goes on as if it were alone, `step_generation` that a
  change, and only a change, begins a new generation.
* `tiers_step` says that an operation keeps what is kept by the operations of the cache that it makes.
* `Origin` lists the ways in which a cache can come to hold a value after an operation, and
  `origin_step` says that there are no others; `user_copy` is about the copies of one user.
-/

namespace Roster.Service

open Roster.Cache Roster.Store

variable {ρ : Type}

/-- The state of a service on a repository that is behind a cache. -/
abbrev Fronted (ρ : Type) : Type := CachedState (World Repository) ρ

/-- The service on a repository, behind a cache. -/
abbrev fronted (cache : Layered ρ) : UserService (Fronted ρ) :=
  cached (base tableBacking) cache

/-- Whether an operation with this answer has changed the directory. -/
def Operation.changed : (op : Operation) → op.Reply → Bool
  | .create _, .ok _ => true
  | .update .., .ok _ => true
  | .delete _, .ok _ => true
  | _, _ => false

/-- The live user whom the service behind has under an id. -/
def CachedState.live (s : CachedState (World Repository) ρ) (id : UserId) : Option User :=
  s.behind.store.table.find? id

/-! ### The service behind -/

/-- The service behind does what it would do without a cache, and what changes the directory there, and
nothing else, begins a new generation. -/
theorem step_beside_tiers (cache : Layered ρ) (op : Operation) (s : Fronted ρ) :
    ((fronted cache).run op s).2.behind = ((base tableBacking).run op s.behind).2 ∧
      ((fronted cache).run op s).2.generation =
        if op.changed ((base tableBacking).run op s.behind).1 then s.generation.bump
        else s.generation := by
  cases op with
  | create r =>
    rw [cached_create]
    rcases (base tableBacking).run (.create r) s.behind with ⟨e | u, b⟩ <;> exact ⟨rfl, rfl⟩
  | get id =>
    rw [cached_get, base_get]
    cases (cache.get (userKey id) s.tiers).1.bind decodeUser? with
    | some u => exact ⟨rfl, rfl⟩
    | none => cases s.behind.store.table.find? id <;> exact ⟨rfl, rfl⟩
  | update id r =>
    rw [cached_update]
    rcases (base tableBacking).run (.update id r) s.behind with ⟨e | u, b⟩ <;> exact ⟨rfl, rfl⟩
  | delete id =>
    rw [cached_delete]
    rcases (base tableBacking).run (.delete id) s.behind with ⟨e | u, b⟩ <;> exact ⟨rfl, rfl⟩
  | list r =>
    rw [cached_list, base_list]
    cases (cache.get (pageKey s.generation.current r) s.tiers).1.bind fun bytes =>
      (decodeBundle? bytes).map (·.page r) <;> exact ⟨rfl, rfl⟩

theorem step_behind (cache : Layered ρ) (op : Operation) (s : Fronted ρ) :
    ((fronted cache).run op s).2.behind = ((base tableBacking).run op s.behind).2 :=
  (step_beside_tiers cache op s).1

theorem step_generation (cache : Layered ρ) (op : Operation) (s : Fronted ρ) :
    ((fronted cache).run op s).2.generation =
      if op.changed ((base tableBacking).run op s.behind).1 then s.generation.bump
      else s.generation := (step_beside_tiers cache op s).2

/-- The answer says that the directory has changed if the service behind says so. -/
theorem changed_answer (cache : Layered ρ) (op : Operation) (s : Fronted ρ) :
    op.changed ((fronted cache).run op s).1 = op.changed ((base tableBacking).run op s.behind).1 := by
  cases op with
  | create r =>
    rw [cached_create]
    rcases (base tableBacking).run (.create r) s.behind with ⟨e | u, b⟩ <;> rfl
  | get id => rfl
  | update id r =>
    rw [cached_update]
    rcases (base tableBacking).run (.update id r) s.behind with ⟨e | u, b⟩ <;> rfl
  | delete id =>
    rw [cached_delete]
    rcases (base tableBacking).run (.delete id) s.behind with ⟨e | u, b⟩ <;> rfl
  | list r => rfl

/-- The service behind is in the state in which it would be without a cache. -/
theorem after_behind (cache : Layered ρ) (ops : List Operation) (s : Fronted ρ) :
    (Program.after (fronted cache).run ops s).behind =
      Program.after (base tableBacking).run ops s.behind := by
  induction ops generalizing s with
  | nil => rfl
  | cons op ops ih =>
    show (Program.after _ ops ((fronted cache).run op s).2).behind = _
    rw [ih, step_behind]
    rfl

/-- What has changed nothing has left the repository as it was. -/
theorem base_unchanged {op : Operation} {w : World Repository}
    (h : op.changed ((base tableBacking).run op w).1 = false) :
    ((base tableBacking).run op w).2.store = w.store := by
  cases hanswer : ((base tableBacking).run op w).1 with
  | error e => exact base_error hanswer
  | ok a =>
    rw [hanswer] at h
    cases op with
    | create r => cases h
    | get id => rw [base_get]
    | update id r => cases h
    | delete id => cases h
    | list r => rw [base_list]

/-! ### Lookups -/

/-- A user is read rightly if no other user is found for it. -/
theorem get_right_iff {cache : Layered ρ} {id : UserId} {s : Fronted ρ} :
    ((fronted cache).run (.get id) s).1 = ((base tableBacking).run (.get id) s.behind).1 ↔
    ∀ u, (cache.get (userKey id) s.tiers).1.bind decodeUser? = some u → s.live id = some u := by
  rw [cached_get, base_get]
  simp only [CachedState.live]
  cases (cache.get (userKey id) s.tiers).1.bind decodeUser? with
  | some u =>
    cases s.behind.store.table.find? id with
    | none =>
      constructor
      · intro h
        cases h
      · intro h
        cases h u rfl
    | some v =>
      constructor
      · intro h w hw
        rw [← Option.some.inj hw, ← Except.ok.inj h]
      · intro h
        rw [Option.some.inj (h u rfl)]
  | none =>
    constructor
    · intro _ u hu
      cases hu
    · intro _
      cases s.behind.store.table.find? id <;> rfl

/-! ### Origins -/

/-- How a cache can have come to hold bytes under a key after an operation. -/
inductive Origin (cache : Layered ρ) (firm : Prop) (held : Tiers ρ → String → ByteArray → Prop)
    (op : Operation) (s : Fronted ρ) (key : String) (bytes : ByteArray) : Prop
  /-- They were held before. If that is firm, a user with this key is as before. -/
  | kept (before : held s.tiers key bytes)
      (same : firm → ∀ id, key = userKey id → ((fronted cache).run op s).2.live id = s.live id)
  /-- They are the answer to a lookup of an operation that only reads. -/
  | fetched (answer : (cache.get key s.tiers).1 = some bytes)
      (lookup : held (cache.get key s.tiers).2 key bytes)
      (asked : ∀ id, key = userKey id → op = .get id)
      (same : ((fronted cache).run op s).2.behind = s.behind)
  /-- They were set to the encoding of a user who is live. -/
  | user (u : User) (hkey : key = userKey u.id) (hbytes : bytes = encodeUser u)
      (live : ((fronted cache).run op s).2.live u.id = some u)
  /-- They were set to the encoding of a page. -/
  | page (r : PageRequest) (hkey : key = pageKey s.generation.current r)
      (hbytes : bytes = encodeBundle (.ofPage (s.behind.store.table.page r)))

/-! ### The tiers after an operation -/

section Tiers

variable (cache : Layered ρ) (s : Fronted ρ)

theorem tiers_create (r : CreateRequest) :
    ((fronted cache).run (.create r) s).2.tiers =
      match ((base tableBacking).run (.create r) s.behind).1 with
      | .error _ => s.tiers
      | .ok u => cache.set (userKey u.id) (encodeUser u) s.tiers := by
  rw [cached_create]
  rcases (base tableBacking).run (.create r) s.behind with ⟨e | u, b⟩ <;> rfl

theorem tiers_get (id : UserId) :
    ((fronted cache).run (.get id) s).2.tiers =
      match (cache.get (userKey id) s.tiers).1.bind decodeUser?, s.live id with
      | none, some u => cache.set (userKey u.id) (encodeUser u) (cache.get (userKey id) s.tiers).2
      | _, _ => (cache.get (userKey id) s.tiers).2 := by
  rw [cached_get, base_get]
  simp only [CachedState.live]
  cases (cache.get (userKey id) s.tiers).1.bind decodeUser? with
  | some u => rfl
  | none => cases s.behind.store.table.find? id <;> rfl

theorem tiers_update (id : UserId) (r : UpdateRequest) :
    ((fronted cache).run (.update id r) s).2.tiers =
      match ((base tableBacking).run (.update id r) s.behind).1 with
      | .error _ => s.tiers
      | .ok u => cache.set (userKey u.id) (encodeUser u) (cache.delete (userKey id) s.tiers) := by
  rw [cached_update]
  rcases (base tableBacking).run (.update id r) s.behind with ⟨e | u, b⟩ <;> rfl

theorem tiers_delete (id : UserId) :
    ((fronted cache).run (.delete id) s).2.tiers =
      match ((base tableBacking).run (.delete id) s.behind).1 with
      | .error _ => s.tiers
      | .ok () => cache.delete (userKey id) s.tiers := by
  rw [cached_delete]
  rcases (base tableBacking).run (.delete id) s.behind with ⟨e | u, b⟩ <;> rfl

theorem tiers_list (r : PageRequest) :
    ((fronted cache).run (.list r) s).2.tiers =
      match (cache.get (pageKey s.generation.current r) s.tiers).1.bind fun bytes =>
          (decodeBundle? bytes).map (·.page r) with
      | some _ => (cache.get (pageKey s.generation.current r) s.tiers).2
      | none => cache.set (pageKey s.generation.current r)
          (encodeBundle (.ofPage (s.behind.store.table.page r)))
          (cache.get (pageKey s.generation.current r) s.tiers).2 := by
  rw [cached_list, base_list]
  cases (cache.get (pageKey s.generation.current r) s.tiers).1.bind fun bytes =>
    (decodeBundle? bytes).map (·.page r) <;> rfl

/-- The keys that an operation looks up, sets or removes in the cache: those of users, and of the page
that it asks for. -/
def CachedState.Addresses (s : Fronted ρ) (op : Operation) (key : String) : Prop :=
  (∃ id, key = userKey id) ∨ ∃ r, op = .list r ∧ key = pageKey s.generation.current r

/-- What lookups, writes and removals of these keys keep is kept by the operation. -/
theorem tiers_step {P : Tiers ρ → Prop} {s : Fronted ρ} {op : Operation}
    (hget : ∀ {key t}, s.Addresses op key → P t → P (cache.get key t).2)
    (hset : ∀ {key value t}, s.Addresses op key → P t → P (cache.set key value t))
    (hdelete : ∀ {key t}, s.Addresses op key → P t → P (cache.delete key t)) (h : P s.tiers) :
    P ((fronted cache).run op s).2.tiers := by
  have huser : ∀ id, s.Addresses op (userKey id) := fun id => Or.inl ⟨id, rfl⟩
  cases op with
  | create r =>
    rw [tiers_create]
    cases ((base tableBacking).run (.create r) s.behind).1 with
    | error e => exact h
    | ok u => exact hset (huser _) h
  | get id =>
    rw [tiers_get]
    split
    · exact hset (huser _) (hget (huser _) h)
    · exact hget (huser _) h
  | update id r =>
    rw [tiers_update]
    cases ((base tableBacking).run (.update id r) s.behind).1 with
    | error e => exact h
    | ok u => exact hset (huser _) (hdelete (huser _) h)
  | delete id =>
    rw [tiers_delete]
    cases ((base tableBacking).run (.delete id) s.behind).1 with
    | error e => exact h
    | ok u => exact hdelete (huser _) h
  | list r =>
    have hpage : s.Addresses (.list r) (pageKey s.generation.current r) := Or.inr ⟨r, rfl, rfl⟩
    rw [tiers_list]
    split
    · exact hget hpage h
    · exact hset hpage (hget hpage h)

end Tiers

/-! ### Live users after an operation -/

section Live

variable (cache : Layered ρ) {s : Fronted ρ} {op : Operation}

/-- An operation that changes nothing keeps every user as before. -/
theorem live_unchanged (h : op.changed ((base tableBacking).run op s.behind).1 = false)
    (id : UserId) : ((fronted cache).run op s).2.live id = s.live id := by
  simp only [CachedState.live]
  rw [step_behind, base_unchanged h]

/-- After an operation that writes one record, the user under its id is that record, if it is a live
one. -/
theorem live_put {id : UserId} {u : User} {version : Nat}
    (h : ((base tableBacking).run op s.behind).2.store =
      ⟨Keyed.put s.behind.store.table id u, version⟩) (other : UserId) :
    ((fronted cache).run op s).2.live other =
      if id = other then (some u).filter User.isLive else s.live other := by
  simp only [CachedState.live]
  rw [step_behind, h, Table.find?_put]

end Live

/-! ### Origins -/

section Step

variable {cache : Layered ρ} {may : ρ → Prop} {firm : Prop}
  {held : Tiers ρ → String → ByteArray → Prop} (h : cache.Tracked may firm held) {s : Fronted ρ}
  (hfar : may s.tiers.far) {key : String} {bytes : ByteArray}

include h hfar

/-- The remote tier stays in the states in which it is known. -/
theorem may_step (op : Operation) : may ((fronted cache).run op s).2.tiers.far := by
  refine tiers_step cache (P := fun t => may t.far) ?_ ?_ ?_ hfar
  · exact fun {k t} _ ht => h.may_get k ht
  · exact fun {k value t} _ ht => h.may_set k value ht
  · exact fun {k t} _ ht => h.may_delete k ht

theorem origin_create (r : CreateRequest)
    (hh : held ((fronted cache).run (.create r) s).2.tiers key bytes) :
    Origin cache firm held (.create r) s key bytes := by
  rw [tiers_create] at hh
  cases hanswer : ((base tableBacking).run (.create r) s.behind).1 with
  | error e =>
    rw [hanswer] at hh
    exact .kept hh fun _ id _ => live_unchanged cache (by rw [hanswer]; rfl) id
  | ok u =>
    rw [hanswer] at hh
    dsimp only at hh
    obtain ⟨hlive, -, hstore⟩ := base_create_ok hanswer
    rcases h.of_set hfar hh with ⟨hk, hset⟩ | ⟨hk, hset⟩
    · refine .user u hk.symm hset ?_
      rw [live_put cache hstore, if_pos rfl, Option.filter_some, if_pos hlive]
    · refine .kept hset fun hfirm id hid => ?_
      rw [live_put cache hstore, if_neg fun he => hk hfirm (by rw [he, hid])]

theorem origin_update (id : UserId) (r : UpdateRequest)
    (hh : held ((fronted cache).run (.update id r) s).2.tiers key bytes) :
    Origin cache firm held (.update id r) s key bytes := by
  rw [tiers_update] at hh
  cases hanswer : ((base tableBacking).run (.update id r) s.behind).1 with
  | error e =>
    rw [hanswer] at hh
    exact .kept hh fun _ other _ => live_unchanged cache (by rw [hanswer]; rfl) other
  | ok u =>
    rw [hanswer] at hh
    dsimp only at hh
    obtain ⟨v, hv, -, hlive, hstore⟩ := base_update_ok hanswer
    rcases h.of_set (h.may_delete (userKey id) hfar) hh with ⟨hk, hset⟩ | ⟨hk, hset⟩
    · refine .user u hk.symm hset ?_
      rw [live_put cache hstore, if_pos rfl, Option.filter_some, if_pos hlive]
    · refine .kept (h.of_delete hfar hset).2 fun hfirm other hother => ?_
      rw [live_put cache hstore, if_neg fun he => hk hfirm (by rw [he, hother])]

theorem origin_delete (id : UserId)
    (hh : held ((fronted cache).run (.delete id) s).2.tiers key bytes) :
    Origin cache firm held (.delete id) s key bytes := by
  rw [tiers_delete] at hh
  cases hanswer : ((base tableBacking).run (.delete id) s.behind).1 with
  | error e =>
    rw [hanswer] at hh
    exact .kept hh fun _ other _ => live_unchanged cache (by rw [hanswer]; rfl) other
  | ok done =>
    rw [hanswer] at hh
    dsimp only at hh
    obtain ⟨v, now, -, hstore⟩ := base_delete_ok hanswer
    obtain ⟨hne, hbefore⟩ := h.of_delete hfar hh
    refine .kept hbefore fun hfirm other hother => ?_
    rw [live_put cache hstore, if_neg fun he => hne hfirm (by rw [he, hother])]

theorem origin_get (hsound : s.behind.store.table.Sound) (id : UserId)
    (hh : held ((fronted cache).run (.get id) s).2.tiers key bytes) :
    Origin cache firm held (.get id) s key bytes := by
  have hsame : ((fronted cache).run (.get id) s).2.behind = s.behind := by
    rw [step_behind, base_get]
  have hlive : ∀ other, ((fronted cache).run (.get id) s).2.live other = s.live other := by
    intro other
    simp only [CachedState.live]
    rw [hsame]
  have hread : held (cache.get (userKey id) s.tiers).2 key bytes →
      Origin cache firm held (.get id) s key bytes := by
    intro hg
    rcases h.of_get hfar hg with hbefore | ⟨rfl, hanswer⟩
    · exact .kept hbefore fun _ other _ => hlive other
    · exact .fetched hanswer hg (fun other hother => by rw [userKey_inj.1 hother]) hsame
  rw [tiers_get] at hh
  cases hfound : (cache.get (userKey id) s.tiers).1.bind decodeUser? with
  | some u =>
    rw [hfound] at hh
    exact hread hh
  | none =>
    cases hu : s.live id with
    | none =>
      rw [hfound, hu] at hh
      exact hread hh
    | some u =>
      rw [hfound, hu] at hh
      dsimp only at hh
      have hid : u.id = id := hsound.id_eq (Table.find?_eq_some.1 hu).1
      rcases h.of_set (h.may_get (userKey id) hfar) hh with ⟨hk, hset⟩ | ⟨-, hset⟩
      · exact .user u hk.symm hset (by rw [hlive, hid, hu])
      · exact hread hset

theorem origin_list (r : PageRequest)
    (hh : held ((fronted cache).run (.list r) s).2.tiers key bytes) :
    Origin cache firm held (.list r) s key bytes := by
  have hsame : ((fronted cache).run (.list r) s).2.behind = s.behind := by
    rw [step_behind, base_list]
  have hread : held (cache.get (pageKey s.generation.current r) s.tiers).2 key bytes →
      Origin cache firm held (.list r) s key bytes := by
    intro hg
    rcases h.of_get hfar hg with hbefore | ⟨rfl, hanswer⟩
    · refine .kept hbefore fun _ other _ => ?_
      simp only [CachedState.live]
      rw [hsame]
    · exact .fetched hanswer hg
        (fun other hother => absurd hother.symm (userKey_ne_pageKey other _ r)) hsame
  rw [tiers_list] at hh
  cases hfound : (cache.get (pageKey s.generation.current r) s.tiers).1.bind fun bytes =>
      (decodeBundle? bytes).map (·.page r) with
  | some p =>
    rw [hfound] at hh
    exact hread hh
  | none =>
    rw [hfound] at hh
    dsimp only at hh
    rcases h.of_set (h.may_get _ hfar) hh with ⟨hk, hset⟩ | ⟨-, hset⟩
    · exact .page r hk.symm hset
    · exact hread hset

/-- There are no other origins of what is tracked. -/
theorem origin_step (hsound : s.behind.store.table.Sound) (op : Operation)
    (hh : held ((fronted cache).run op s).2.tiers key bytes) : Origin cache firm held op s key bytes := by
  cases op with
  | create r => exact origin_create h hfar r hh
  | get id => exact origin_get h hfar hsound id hh
  | update id r => exact origin_update h hfar id r hh
  | delete id => exact origin_delete h hfar id hh
  | list r => exact origin_list h hfar r hh

/-- What is tracked under the key of a user after an operation is the live user, or was there before, or
was just looked up. -/
theorem user_copy (hsound : s.behind.store.table.Sound) {op : Operation} {id : UserId} {u : User}
    (hd : decodeUser? bytes = some u)
    (hh : held ((fronted cache).run op s).2.tiers (userKey id) bytes) :
    ((fronted cache).run op s).2.live id = some u ∨
      held s.tiers (userKey id) bytes ∧
        (firm → ((fronted cache).run op s).2.live id = s.live id) ∨
      op = .get id ∧ (cache.get (userKey id) s.tiers).1 = some bytes ∧
        held (cache.get (userKey id) s.tiers).2 (userKey id) bytes ∧
        ((fronted cache).run op s).2.live id = s.live id := by
  cases origin_step h hfar hsound op hh with
  | kept before same => exact Or.inr (Or.inl ⟨before, fun hfirm => same hfirm id rfl⟩)
  | fetched answer lookup asked same =>
    refine Or.inr (Or.inr ⟨asked id rfl, answer, lookup, ?_⟩)
    simp only [CachedState.live]
    rw [same]
  | user v hkey hbytes live =>
    rw [hbytes, decodeUser?_encodeUser] at hd
    rw [← Option.some.inj hd, userKey_inj.1 hkey]
    exact Or.inl live
  | page r hkey hbytes => exact absurd hkey (userKey_ne_pageKey id _ r)

end Step

end Roster.Service
