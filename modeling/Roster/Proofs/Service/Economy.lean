import Mathlib.Data.List.Nodup
import Roster.Proofs.Service.Failures
import Roster.Proofs.Service.Served
import Roster.Proofs.Service.SideBySide
import Roster.Proofs.Service.Transparency

/-!
# Nothing is asked for again

A service with a cache, the remote tier of which is a map that nobody else writes to. What the service
behind has given once is taken from the cache from then on: a user until the user is deleted, and a page
as long as the generation lasts.

* `Stocked` says what such a cache is stocked with. `Stocked.step` is one operation, and
  `Stocked.run_keeps` any number of them.
* `pagesAsked` are the pages that the service behind is asked for in a run. `Stocked.pages_nodup` says
  that no page is asked for twice in one generation.
* `reads_never_repeated` is about the runs that start with an empty cache.
-/

namespace Roster.Service

open Roster.Cache Roster.Number Roster.Store

variable {σ ρ : Type}

/-! ### Users -/

/-- Whether an operation with this answer has deleted the user under an id. -/
def Operation.frees (id : UserId) : (op : Operation) → op.Reply → Bool
  | .delete other, .ok () => other = id
  | _, _ => false

/-- Whether an operation with this answer has changed the user under an id. -/
def Operation.alters (id : UserId) : (op : Operation) → op.Reply → Bool
  | .create _, .ok u => u.id = id
  | .update other _, .ok _ => other = id
  | .delete other, .ok () => other = id
  | _, _ => false

theorem Operation.alters_of_frees {id : UserId} {op : Operation} {reply : op.Reply}
    (h : op.frees id reply = true) : op.alters id reply = true := by
  cases op with
  | delete other =>
    rcases reply with e | ⟨⟨⟩⟩
    · cases h
    · exact h
  | create r => cases h
  | get other => cases h
  | update other r => cases h
  | list r => cases h

/-- In the states of `ok`, which no operation leaves, a user who is given for an id has this id. -/
structure Apt (behind : UserService σ) (ok : σ → Prop) : Prop where
  keep (op : Operation) {b : σ} : ok b → ok (behind.run op b).2
  get {id : UserId} {b : σ} {u : User} : ok b → (behind.run (.get id) b).1 = .ok u → u.id = id
  update {id : UserId} {r : UpdateRequest} {b : σ} {u : User} :
    ok b → (behind.run (.update id r) b).1 = .ok u → u.id = id

theorem base_apt : Apt (base tableBacking) fun w => w.store.table.Sound where
  keep op _ hsound := base_sound hsound op
  get {id w u} hsound hanswer := by
    rw [base_get] at hanswer
    cases hfind : w.store.table.find? id with
    | none =>
      rw [hfind] at hanswer
      cases hanswer
    | some v =>
      rw [hfind] at hanswer
      rw [← Except.ok.inj hanswer]
      exact hsound.id_eq (Table.find?_eq_some.1 hfind).1
  update hsound hanswer := by
    obtain ⟨v, hfind, hid, -⟩ := base_update_ok hanswer
    rw [hid]
    exact hsound.id_eq (Table.find?_eq_some.1 hfind).1

theorem after_set (m : String → Option ByteArray) (key : String) (value : ByteArray) (k : String) :
    Program.after CacheCall.onMap [.set key value] m k = if key = k then some value else m k := rfl

theorem after_delete (m : String → Option ByteArray) (key k : String) :
    Program.after CacheCall.onMap [.delete key] m k = if key = k then none else m k := rfl

theorem after_delete_set (m : String → Option ByteArray) (removed key : String) (value : ByteArray)
    (k : String) : Program.after CacheCall.onMap [.delete removed, .set key value] m k =
      if key = k then some value else if removed = k then none else m k := rfl

/-- Whoever is given is noted. -/
theorem note_of_user (g : Nat) (m : String → Option ByteArray) {op : Operation} {a : op.Result}
    {u : User} (h : op.user? (.ok a) = some u) :
    Program.after CacheCall.onMap (notes g op a) m (userKey u.id) = some (encodeUser u) := by
  cases op with
  | create r =>
    cases h
    rw [notes, after_set, if_pos rfl]
  | get id =>
    cases h
    rw [notes, after_set, if_pos rfl]
  | update id r =>
    cases h
    rw [notes, after_delete_set, if_pos rfl]
  | delete id => cases h
  | list r => cases h

/-- Of a user who is neither given nor deleted nothing is noted. -/
theorem note_of_other (g : Nat) (m : String → Option ByteArray) {op : Operation} {a : op.Result}
    {id : UserId} (hown : ∀ other r u, op = .update other r → op.user? (.ok a) = some u → u.id = other)
    (huser : ∀ u, op.user? (.ok a) = some u → u.id ≠ id) (hfrees : op.frees id (.ok a) = false) :
    Program.after CacheCall.onMap (notes g op a) m (userKey id) = m (userKey id) := by
  have hkey : ∀ other, other ≠ id → userKey other ≠ userKey id :=
    fun other hne he => hne (userKey_inj.1 he)
  cases op with
  | create r => rw [notes, after_set, if_neg (hkey _ (huser a rfl))]
  | get other => rw [notes, after_set, if_neg (hkey _ (huser a rfl))]
  | update other r =>
    have hid : a.id = other := hown other r a rfl rfl
    rw [notes, after_delete_set, if_neg (hkey _ (huser a rfl)), if_neg (hkey _ (hid ▸ huser a rfl))]
  | delete other => rw [notes, after_delete, if_neg (hkey _ (of_decide_eq_false hfrees))]
  | list r => rw [notes, after_set, if_neg (userKey_ne_pageKey id g r).symm]

theorem note_of_frees (g : Nat) (m : String → Option ByteArray) {op : Operation} {a : op.Result}
    {id : UserId} (h : op.frees id (.ok a) = true) :
    Program.after CacheCall.onMap (notes g op a) m (userKey id) = none := by
  cases op with
  | delete other => rw [notes, after_delete, if_pos (userKey_inj.2 (of_decide_eq_true h))]
  | create r => cases h
  | get other => cases h
  | update other r => cases h
  | list r => cases h

/-- What a service with a cache has in stock: the tiers show nothing but what the remote one holds, and
that is the payload of a user with the right id under the key of a user. -/
structure Stocked (ok : σ → Prop) (may : ρ → Prop) (view : ρ → String → Option ByteArray)
    (s : CachedState σ ρ) : Prop where
  behind : ok s.behind
  mirrors : Layered.Mirrors may view (s.shown view) s.tiers
  user {id : UserId} {bytes : ByteArray} : s.shown view (userKey id) = some bytes →
    ∃ u, u.id = id ∧ bytes = encodeUser u

/-- A user who is noted is found there. -/
theorem Stocked.recollect_get {ok : σ → Prop} {may : ρ → Prop} {view : ρ → String → Option ByteArray}
    {s : CachedState σ ρ} (hs : Stocked ok may view s) {id : UserId} {bytes : ByteArray}
    (hshown : s.shown view (userKey id) = some bytes) (g : Nat) :
    ∃ u, u.id = id ∧ bytes = encodeUser u ∧ recollect g (s.shown view) (.get id) = some u := by
  obtain ⟨u, hid, hbytes⟩ := hs.user hshown
  refine ⟨u, hid, hbytes, ?_⟩
  simp only [recollect]
  rw [hshown, Option.bind_some, hbytes, decodeUser?_encodeUser]

/-- What an operation can do to what is noted of a user: nothing, or the service behind was asked and has
given the user, or the user was deleted. -/
inductive UserStep (behind : UserService σ) (cache : Layered ρ)
    (view : ρ → String → Option ByteArray) (op : Operation) (s : CachedState σ ρ) (id : UserId) : Prop
  | kept (held : ((cached behind cache).run op s).2.shown view (userKey id) =
      s.shown view (userKey id))
  | given (a : op.Result) (u : User) (hid : u.id = id) (own : (behind.run op s.behind).1 = .ok a)
      (miss : recollect s.generation.current (s.shown view) op = none)
      (answer : ((cached behind cache).run op s).1 = .ok a) (user : op.user? (.ok a) = some u)
      (held : ((cached behind cache).run op s).2.shown view (userKey id) = some (encodeUser u))
  | freed (frees : op.frees id ((cached behind cache).run op s).1 = true)
      (held : ((cached behind cache).run op s).2.shown view (userKey id) = none)

section Stock

variable {behind : UserService σ} {cache : Layered ρ} {ok : σ → Prop} {may : ρ → Prop}
  {view : ρ → String → Option ByteArray} (hbehind : Apt behind ok) (h : cache.Faithful may view)
  (hremote : cache.hasRemote = true) {s : CachedState σ ρ}

include hbehind in
/-- A user who is given for an id has the id that was asked for. -/
theorem Apt.own {b : σ} (hb : ok b) {op : Operation} {a : op.Result}
    (hown : (behind.run op b).1 = .ok a) (id : UserId) (r : UpdateRequest) (u : User)
    (hop : op = .update id r) (huser : op.user? (.ok a) = some u) : u.id = id := by
  subst hop
  cases huser
  exact hbehind.update hb hown

include hbehind in
/-- The service behind stays in its states. -/
theorem Apt.behind_run (op : Operation) (hs : ok s.behind) :
    ok ((cached behind cache).run op s).2.behind := by
  rw [run_eq]
  cases recollect s.generation.current (fun key => (cache.get key s.tiers).1) op with
  | some a => exact hs
  | none =>
    have hkeep := hbehind.keep op hs
    rcases hown : behind.run op s.behind with ⟨e | a, b⟩
    · rw [hown] at hkeep
      exact hkeep
    · rw [hown] at hkeep
      exact hkeep

include h hremote

theorem Stocked.served (hs : Stocked ok may view s) (behind : UserService σ) (op : Operation) :
    Served behind cache view op s := (served_of_mirrors h hremote hs.mirrors op).2

/-- Whoever is in an answer is noted afterwards. -/
theorem Stocked.noted_of_user (hs : Stocked ok may view s) {op : Operation} {u : User}
    (huser : op.user? ((cached behind cache).run op s).1 = some u) :
    (((cached behind cache).run op s).2.shown view (userKey u.id)).isSome = true := by
  cases hs.served h hremote behind op with
  | failed e answer _ _ _ =>
    rw [answer] at huser
    cases op <;> cases huser
  | given a _ _ answer _ noted =>
    rw [answer] at huser
    rw [noted, note_of_user _ _ huser]
    rfl
  | recalled a hit answer _ same =>
    rw [answer] at huser
    rw [same]
    cases op with
    | create r => cases hit
    | update id r => cases hit
    | delete id => cases hit
    | list r => cases huser
    | get id =>
      cases huser
      obtain ⟨bytes, hshown, hdecoded⟩ := Option.bind_eq_some_iff.1 hit
      obtain ⟨v, hid, -, hfound⟩ := hs.recollect_get hshown s.generation.current
      rw [hit] at hfound
      rw [Option.some.inj hfound, hid, hshown]
      rfl

/-- A user who is noted is got without the service behind. -/
theorem Stocked.get_quiet (hs : Stocked ok may view s) {id : UserId}
    (hnoted : (s.shown view (userKey id)).isSome = true) :
    consulted behind cache (.get id) s = [] ∧
      ∃ u, ((cached behind cache).run (.get id) s).1 = .ok u ∧ u.id = id := by
  obtain ⟨bytes, hshown⟩ := Option.isSome_iff_exists.1 hnoted
  obtain ⟨u, hid, -, hfound⟩ := hs.recollect_get hshown s.generation.current
  cases hs.served h hremote behind (.get id) with
  | recalled a hit answer asked _ =>
    rw [hfound] at hit
    rw [Option.some.inj hit] at hid
    exact ⟨asked, a, answer, hid⟩
  | failed e _ miss _ _ =>
    rw [hfound] at miss
    cases miss
  | given a _ miss _ _ _ =>
    rw [hfound] at miss
    cases miss

include hbehind

theorem Stocked.user_step (hs : Stocked ok may view s) (op : Operation) (id : UserId) :
    UserStep behind cache view op s id := by
  cases hs.served h hremote behind op with
  | recalled a _ _ _ same => exact .kept (congrFun same _)
  | failed e _ _ _ same => exact .kept (congrFun same _)
  | given a own miss answer _ noted =>
    by_cases huser : ∃ u, op.user? (.ok a) = some u ∧ u.id = id
    · obtain ⟨u, huser, rfl⟩ := huser
      exact .given a u rfl own miss answer huser (by rw [noted, note_of_user _ _ huser])
    · cases hfrees : op.frees id (.ok a) with
      | true => exact .freed (by rw [answer, hfrees]) (by rw [noted, note_of_frees _ _ hfrees])
      | false =>
        refine .kept ?_
        rw [noted]
        exact note_of_other _ _ (hbehind.own hs.behind own) (fun u hu hid => huser ⟨u, hu, hid⟩) hfrees

/-- Every operation keeps the stock in order. -/
theorem Stocked.step (hs : Stocked ok may view s) (op : Operation) :
    Stocked ok may view ((cached behind cache).run op s).2 where
  behind := hbehind.behind_run op hs.behind
  mirrors := (served_of_mirrors h hremote hs.mirrors op).1
  user {id bytes} hshown := by
    cases hs.user_step hbehind h hremote op id with
    | kept held =>
      rw [held] at hshown
      exact hs.user hshown
    | given a u hid _ _ _ _ held =>
      rw [held] at hshown
      exact ⟨u, hid, (Option.some.inj hshown).symm⟩
    | freed _ held =>
      rw [held] at hshown
      cases hshown

/-- What every operation keeps, if its answer is as required, holds after any number of them. -/
theorem Stocked.run_keeps {P : CachedState σ ρ → Prop} {Q : ((op : Operation) × op.Reply) → Prop}
    (keep : ∀ {s : CachedState σ ρ} (op : Operation), Stocked ok may view s → P s →
      Q ⟨op, ((cached behind cache).run op s).1⟩ → P ((cached behind cache).run op s).2)
    (hs : Stocked ok may view s) (hp : P s) (ops : List Operation)
    (hq : ∀ a ∈ Program.answers (cached behind cache).run ops s, Q a) :
    Stocked ok may view (Program.after (cached behind cache).run ops s) ∧
      P (Program.after (cached behind cache).run ops s) := by
  induction ops generalizing s with
  | nil => exact ⟨hs, hp⟩
  | cons op ops ih =>
    rw [Program.answers, List.forall_mem_cons] at hq
    exact ih (hs.step hbehind h hremote op) (keep op hs hp hq.1) hq.2

/-- A user stays noted until a deletion. -/
theorem Stocked.noted_step (hs : Stocked ok may view s) {id : UserId}
    (hnoted : (s.shown view (userKey id)).isSome = true) (op : Operation)
    (hop : op.frees id ((cached behind cache).run op s).1 = false) :
    (((cached behind cache).run op s).2.shown view (userKey id)).isSome = true := by
  cases hs.user_step hbehind h hremote op id with
  | kept held =>
    rw [held]
    exact hnoted
  | given a u _ _ _ _ _ held =>
    rw [held]
    rfl
  | freed frees _ =>
    rw [frees] at hop
    cases hop

/-- The payload of a user stays what it is until the user is changed. -/
theorem Stocked.payload_step (hs : Stocked ok may view s) {id : UserId} {bytes : ByteArray}
    (hshown : s.shown view (userKey id) = some bytes) (op : Operation)
    (hop : op.alters id ((cached behind cache).run op s).1 = false) :
    ((cached behind cache).run op s).2.shown view (userKey id) = some bytes := by
  cases hs.user_step hbehind h hremote op id with
  | kept held =>
    rw [held]
    exact hshown
  | freed frees _ =>
    rw [Operation.alters_of_frees frees] at hop
    cases hop
  | given a u hid own miss answer user _ =>
    rw [answer] at hop
    cases op with
    | create r =>
      cases user
      exact absurd hid (of_decide_eq_false hop)
    | update other r =>
      cases user
      exact absurd ((hbehind.update hs.behind own).symm.trans hid) (of_decide_eq_false hop)
    | get other =>
      -- The service behind was asked, so nothing was noted of this user.
      cases user
      have hother : other = id := (hbehind.get hs.behind own).symm.trans hid
      obtain ⟨v, -, -, hfound⟩ := hs.recollect_get hshown s.generation.current
      rw [hother, hfound] at miss
      cases miss
    | delete other => cases user
    | list r => cases user

end Stock

/-! ### Pages -/

/-- The page that was asked for, if one was given. -/
def pageGiven : ((op : Operation) × op.Reply) → Option PageRequest
  | ⟨.list r, .ok _⟩ => some r
  | _ => none

/-- Whether the total of the page in an answer, if it has one, is a number of 64 bits. -/
def Operation.counted : (op : Operation) → op.Reply → Bool
  | .list _, .ok p => p.info.totalElements ≤ wordMax
  | _, _ => true

/-- The pages that the service behind was asked for in a run and has given, each with the generation in
which it was asked. -/
def pagesAsked (behind : UserService σ) (cache : Layered ρ) :
    List Operation → CachedState σ ρ → List (Nat × PageRequest)
  | [], _ => []
  | op :: ops, s =>
    ((consulted behind cache op s).filterMap pageGiven).map (s.generation.current, ·) ++
      pagesAsked behind cache ops ((cached behind cache).run op s).2

/-- Whatever is noted under the key of a page can be read. -/
def Legible (m : String → Option ByteArray) : Prop :=
  ∀ g r bytes, m (pageKey g r) = some bytes → ∃ b, decodeBundle? bytes = some b

/-- Under the key of a page there is what was there, or a page that can be read. -/
theorem note_of_page (g : Nat) (m : String → Option ByteArray) {op : Operation} {a : op.Result}
    (h : op.counted (.ok a) = true) (g' : Nat) (r : PageRequest) :
    Program.after CacheCall.onMap (notes g op a) m (pageKey g' r) = m (pageKey g' r) ∨
      ∃ b : Bundle, b.total ≤ wordMax ∧
        Program.after CacheCall.onMap (notes g op a) m (pageKey g' r) = some (encodeBundle b) := by
  have hkey : ∀ id, userKey id ≠ pageKey g' r := fun id => userKey_ne_pageKey id g' r
  cases op with
  | create q => exact Or.inl (by rw [notes, after_set, if_neg (hkey _)])
  | get id => exact Or.inl (by rw [notes, after_set, if_neg (hkey _)])
  | update id q =>
    exact Or.inl (by rw [notes, after_delete_set, if_neg (hkey _), if_neg (hkey _)])
  | delete id => exact Or.inl (by rw [notes, after_delete, if_neg (hkey _)])
  | list q =>
    rw [notes, after_set]
    by_cases hq : pageKey g q = pageKey g' r
    · rw [if_pos hq]
      exact Or.inr ⟨.ofPage a, of_decide_eq_true h, rfl⟩
    · rw [if_neg hq]
      exact Or.inl rfl

theorem Legible.notes {m : String → Option ByteArray} (hm : Legible m) (g : Nat) {op : Operation}
    {a : op.Result} (h : op.counted (.ok a) = true) :
    Legible (Program.after CacheCall.onMap (notes g op a) m) := by
  intro g' r bytes hbytes
  rcases note_of_page g m h g' r with hsame | ⟨b, htotal, hnew⟩
  · rw [hsame] at hbytes
    exact hm g' r bytes hbytes
  · rw [hnew] at hbytes
    rw [← Option.some.inj hbytes]
    exact ⟨b, decodeBundle?_encodeBundle htotal⟩

/-- A page that the service behind is asked for and gives was not there, and is there then. -/
theorem Legible.asked {m : String → Option ByteArray} (hm : Legible m) {g : Nat} {op : Operation}
    {a : op.Result} {r : PageRequest} (miss : recollect g m op = none)
    (h : pageGiven ⟨op, .ok a⟩ = some r) : m (pageKey g r) = none ∧
      (Program.after CacheCall.onMap (Service.notes g op a) m (pageKey g r)).isSome = true := by
  cases op with
  | create q => cases h
  | get id => cases h
  | update id q => cases h
  | delete id => cases h
  | list q =>
    cases h
    refine ⟨?_, ?_⟩
    · cases hheld : m (pageKey g r) with
      | none => rfl
      | some bytes =>
        obtain ⟨b, hb⟩ := hm g r bytes hheld
        simp only [recollect] at miss
        rw [hheld, Option.bind_some, hb] at miss
        cases miss
    · rw [Service.notes, after_set, if_pos rfl]
      rfl

/-- In a run without changes all pages are asked for in one generation. -/
theorem pagesAsked_generation (behind : UserService σ) (cache : Layered ρ) (ops : List Operation)
    {s : CachedState σ ρ} (h : changes (Program.answers (cached behind cache).run ops s) = 0) :
    ∀ x ∈ pagesAsked behind cache ops s, x.1 = s.generation.current := by
  induction ops generalizing s with
  | nil =>
    intro x hx
    cases hx
  | cons op ops ih =>
    simp only [changes] at h ih
    rw [Program.answers, List.countP_cons] at h
    have hop : op.changed ((cached behind cache).run op s).1 = false := by
      cases hc : op.changed ((cached behind cache).run op s).1 with
      | false => rfl
      | true => simp [hc] at h
    have hgeneration : ((cached behind cache).run op s).2.generation = s.generation := by
      rw [run_generation, if_neg (by rw [hop]; decide)]
    intro x hx
    rcases List.mem_append.1 hx with hnow | hlater
    · obtain ⟨r, -, rfl⟩ := List.mem_map.1 hnow
      rfl
    · rw [ih (Nat.le_zero.1 (h ▸ Nat.le_add_right _ _)) x hlater, hgeneration]

section Asked

variable {behind : UserService σ} {cache : Layered ρ} {ok : σ → Prop} {may : ρ → Prop}
  {view : ρ → String → Option ByteArray} (hbehind : Apt behind ok) (h : cache.Faithful may view)
  (hremote : cache.hasRemote = true) {s : CachedState σ ρ}

include h hremote

/-- What is noted of pages can be read after every operation, and is not lost. -/
theorem Stocked.pages_step (hs : Stocked ok may view s) (hlegible : Legible (s.shown view))
    (op : Operation) (hop : op.counted ((cached behind cache).run op s).1 = true) :
    Legible (((cached behind cache).run op s).2.shown view) ∧
      ∀ g r, ((cached behind cache).run op s).2.shown view (pageKey g r) = none →
        s.shown view (pageKey g r) = none := by
  cases hs.served h hremote behind op with
  | recalled a _ _ _ same =>
    rw [same]
    exact ⟨hlegible, fun _ _ hnone => hnone⟩
  | failed e _ _ _ same =>
    rw [same]
    exact ⟨hlegible, fun _ _ hnone => hnone⟩
  | given a _ _ answer _ noted =>
    rw [answer] at hop
    rw [noted]
    refine ⟨hlegible.notes _ hop, fun g r hnone => ?_⟩
    rcases note_of_page s.generation.current (s.shown view) hop g r with hsame | ⟨b, -, hnew⟩
    · rw [← hsame]
      exact hnone
    · rw [hnew] at hnone
      cases hnone

/-- An operation asks for at most one page, and only for one that is not noted yet. -/
theorem Stocked.asked_step (hs : Stocked ok may view s) (hlegible : Legible (s.shown view))
    (op : Operation) : (consulted behind cache op s).filterMap pageGiven = [] ∨
      ∃ r, (consulted behind cache op s).filterMap pageGiven = [r] ∧
        s.shown view (pageKey s.generation.current r) = none ∧
        (((cached behind cache).run op s).2.shown view
          (pageKey s.generation.current r)).isSome = true := by
  cases hs.served h hremote behind op with
  | recalled a _ _ asked _ =>
    rw [asked]
    exact Or.inl rfl
  | failed e _ _ asked _ =>
    rw [asked]
    cases op <;> exact Or.inl rfl
  | given a _ miss _ asked noted =>
    rw [asked, noted, List.filterMap_cons, List.filterMap_nil]
    cases hgiven : pageGiven ⟨op, .ok a⟩ with
    | none => exact Or.inl rfl
    | some r => exact Or.inr ⟨r, rfl, hlegible.asked miss hgiven⟩

include hbehind

/-- No page is asked for twice in one generation, and none that is noted already. -/
theorem Stocked.pages_nodup (hs : Stocked ok may view s) (hlegible : Legible (s.shown view))
    (ops : List Operation)
    (hops : ∀ a ∈ Program.answers (cached behind cache).run ops s, a.1.counted a.2 = true) :
    (pagesAsked behind cache ops s).Nodup ∧
      ∀ x ∈ pagesAsked behind cache ops s, s.shown view (pageKey x.1 x.2) = none := by
  induction ops generalizing s with
  | nil => exact ⟨List.nodup_nil, fun x hx => nomatch hx⟩
  | cons op ops ih =>
    rw [Program.answers, List.forall_mem_cons] at hops
    obtain ⟨hlegible', hkept⟩ := hs.pages_step h hremote hlegible op hops.1
    obtain ⟨hnodup, hnone⟩ := ih (hs.step hbehind h hremote op) hlegible' hops.2
    have hlater : ∀ x ∈ pagesAsked behind cache ops ((cached behind cache).run op s).2,
        s.shown view (pageKey x.1 x.2) = none := fun x hx => hkept x.1 x.2 (hnone x hx)
    rw [pagesAsked]
    rcases hs.asked_step h hremote hlegible op with hnow | ⟨r, hnow, hmiss, hnoted⟩
    · rw [hnow]
      exact ⟨hnodup, hlater⟩
    · rw [hnow]
      refine ⟨List.nodup_cons.2 ⟨fun hmem => ?_, hnodup⟩, List.forall_mem_cons.2 ⟨hmiss, hlater⟩⟩
      rw [hnone _ hmem] at hnoted
      cases hnoted

end Asked

/-! ### Runs -/

/-- What is never asked of the service behind again in runs from a state. -/
structure Economical (behind : UserService σ) (cache : Layered ρ)
    (view : ρ → String → Option ByteArray) (s : CachedState σ ρ) : Prop where
  /-- A user who was in an answer is got without the service behind as long as no deletion has
  succeeded. -/
  users (before : List Operation) (op : Operation) (since : List Operation) (u : User) :
    op.user? ((cached behind cache).run op (Program.after (cached behind cache).run before s)).1 =
        some u →
      (∀ a ∈ Program.answers (cached behind cache).run since
          (Program.after (cached behind cache).run (before ++ [op]) s), a.1.frees u.id a.2 = false) →
      consulted behind cache (.get u.id)
          (Program.after (cached behind cache).run (before ++ op :: since) s) = [] ∧
        ∃ v, ((cached behind cache).run (.get u.id)
            (Program.after (cached behind cache).run (before ++ op :: since) s)).1 = .ok v ∧ v.id = u.id
  /-- As long as no change of a user has succeeded, the bytes that were found for the user are found
  again, and no tier holds others. -/
  payloads (before during : List Operation) (id : UserId) (bytes : ByteArray) :
    (cache.get (userKey id) (Program.after (cached behind cache).run before s).tiers).1 = some bytes →
      (∀ a ∈ Program.answers (cached behind cache).run during
          (Program.after (cached behind cache).run before s), a.1.alters id a.2 = false) →
      (cache.get (userKey id)
          (Program.after (cached behind cache).run (before ++ during) s).tiers).1 = some bytes ∧
        Layered.Shows view (userKey id) (some bytes)
          (Program.after (cached behind cache).run (before ++ during) s).tiers
  /-- A page is asked for successfully at most once in a generation. -/
  pages (ops : List Operation) :
    (∀ a ∈ Program.answers (cached behind cache).run ops s, a.1.counted a.2 = true) →
      (pagesAsked behind cache ops s).Nodup
  /-- A page is asked for successfully at most once as long as no change has succeeded. -/
  pages_between (before during : List Operation) :
    (∀ a ∈ Program.answers (cached behind cache).run (before ++ during) s,
        a.1.counted a.2 = true) →
      changes (Program.answers (cached behind cache).run during
        (Program.after (cached behind cache).run before s)) = 0 →
      ((pagesAsked behind cache during
        (Program.after (cached behind cache).run before s)).map Prod.snd).Nodup

section Run

variable {behind : UserService σ} {cache : Layered ρ} {ok : σ → Prop} {may : ρ → Prop}
  {view : ρ → String → Option ByteArray} (hbehind : Apt behind ok) (h : cache.Faithful may view)
  (hremote : cache.hasRemote = true) {s : CachedState σ ρ}

theorem shown_start (b : σ) (g : Generation) (near : Local) {far : ρ}
    (hempty : ∀ key, view far key = none) (key : String) :
    CachedState.shown view ⟨b, g, Layered.start near far⟩ key = none := hempty key

/-- A service with an empty cache has nothing in stock. -/
theorem stocked_start {b : σ} (hb : ok b) (g : Generation) (sizing : Sizing) {far : ρ} (hfar : may far)
    (hempty : ∀ key, view far key = none) :
    Stocked ok may view ⟨b, g, Layered.start (.ofSizing sizing) far⟩ where
  behind := hb
  mirrors := by
    show Layered.Mirrors may view (view far) (Layered.start (.ofSizing sizing) far)
    rw [show view far = fun _ => none from funext hempty]
    exact Layered.mirrors_start hfar hempty sizing
  user hshown := by
    rw [shown_start b g _ hempty] at hshown
    cases hshown

include hbehind h hremote

theorem Stocked.after (hs : Stocked ok may view s) (ops : List Operation) :
    Stocked ok may view (Program.after (cached behind cache).run ops s) :=
  (hs.run_keeps (P := fun _ => True) (Q := fun _ => True) hbehind h hremote
    (fun _ _ _ _ => trivial) trivial ops fun _ _ => trivial).1

/-- From a state with stock in order, nothing that was given is asked for again. -/
theorem Stocked.economical (hs : Stocked ok may view s) (hlegible : Legible (s.shown view)) :
    Economical behind cache view s where
  users before op since u huser hsince := by
    have hbefore := hs.after hbehind h hremote before
    have hnoted := hbefore.noted_of_user h hremote huser
    have hnext := hbefore.step hbehind h hremote op
    rw [Program.after_append] at hsince
    have hkept := hnext.run_keeps
      (P := fun t => (t.shown view (userKey u.id)).isSome = true)
      (Q := fun a => a.1.frees u.id a.2 = false) hbehind h hremote
      (fun op ht hp hop => ht.noted_step hbehind h hremote hp op hop) hnoted since hsince
    rw [Program.after_append]
    exact hkept.1.get_quiet h hremote hkept.2
  payloads before during id bytes hfound hduring := by
    have hbefore := hs.after hbehind h hremote before
    rw [(hbefore.mirrors.shows _).get_fst h hremote hbefore.mirrors.may_far] at hfound
    have hkept := hbefore.run_keeps (P := fun t => t.shown view (userKey id) = some bytes)
      (Q := fun a => a.1.alters id a.2 = false) hbehind h hremote
      (fun op ht hp hop => ht.payload_step hbehind h hremote hp op hop) hfound during hduring
    rw [Program.after_append]
    have hshows := hkept.1.mirrors.shows (userKey id)
    rw [hkept.2] at hshows
    exact ⟨hshows.get_fst h hremote hkept.1.mirrors.may_far, hshows⟩
  pages ops hops := (hs.pages_nodup hbehind h hremote hlegible ops hops).1
  pages_between before during hops hchanges := by
    rw [Program.answers_append] at hops
    have hbefore := hs.run_keeps (P := fun t => Legible (t.shown view))
      (Q := fun a => a.1.counted a.2 = true) hbehind h hremote
      (fun op ht hp hop => (ht.pages_step h hremote hp op hop).1) hlegible before
      fun a ha => hops a (List.mem_append_left _ ha)
    have hnodup := (hbefore.1.pages_nodup hbehind h hremote hbefore.2 during
      fun a ha => hops a (List.mem_append_right _ ha)).1
    -- Two pages with one request would be one, since their generation is the same.
    have hsame := pagesAsked_generation behind cache during hchanges
    refine List.Nodup.map_on (fun x hx y hy hxy => ?_) hnodup
    exact Prod.ext ((hsame x hx).trans (hsame y hy).symm) hxy

/-- **Nothing is asked for again.**  Let the remote tier be a map that always answers in time and forgets
nothing, and let both tiers start without entries. Then in every run of operations, whatever the size of
the local tier: a user who was created, changed or got is got without the service behind until the user
is deleted; the bytes that are cached of a user stay the same until the user is changed; and a page is
asked for successfully at most once in each generation, and so at most once between two changes, as long
as the totals of the pages are numbers of 64 bits. -/
theorem reads_never_repeated {b : σ} (hb : ok b) (g : Generation) (sizing : Sizing) {far : ρ}
    (hfar : may far) (hempty : ∀ key, view far key = none) :
    Economical behind cache view ⟨b, g, Layered.start (.ofSizing sizing) far⟩ := by
  refine (stocked_start hb g sizing hfar hempty).economical hbehind h hremote ?_
  intro g' r bytes hbytes
  rw [shown_start b g _ hempty] at hbytes
  cases hbytes

end Run

/-- The state in which a trial starts, with a local tier of one byte. -/
def trialEmpty : CachedState (World Repository) Simulated :=
  ⟨⟨.empty, .still⟩, .first, Layered.start (.ofSizing ⟨1, 10, 1⟩) (.ofBehaviour .map)⟩

theorem reads_never_repeated_in_trial :
    consulted (base tableBacking) (Simulated.layered ⟨0⟩ ⟨0⟩) (.get (.inSeries 0))
        (Program.after (fronted (Simulated.layered ⟨0⟩ ⟨0⟩)).run (trialRun.take 4) trialEmpty) = [] ∧
      (pagesAsked (base tableBacking) (Simulated.layered ⟨0⟩ ⟨0⟩) trialRun trialEmpty).Nodup := by
  have hall : Economical (base tableBacking) (Simulated.layered ⟨0⟩ ⟨0⟩) Simulated.view trialEmpty :=
    reads_never_repeated base_apt (Simulated.layered_faithful ⟨0⟩ ⟨0⟩) rfl Table.sound_nil .first
      ⟨1, 10, 1⟩ rfl fun _ => rfl
  have hanswer : ((Operation.create ⟨"Jane", "jane@example.org"⟩).user?
      ((fronted (Simulated.layered ⟨0⟩ ⟨0⟩)).run (.create ⟨"Jane", "jane@example.org"⟩) trialEmpty).1).map
        User.id = some (.inSeries 0) := by decide +kernel
  obtain ⟨u, hcreated, hid⟩ := Option.map_eq_some_iff.1 hanswer
  refine ⟨?_, hall.pages trialRun (by decide +kernel)⟩
  rw [← hid]
  exact (hall.users [] _ (trialRun.take 4).tail u hcreated (by rw [hid]; decide +kernel)).1

end Roster.Service
