import Roster.Cache.Layered
import Roster.Cache.Simulated
import Roster.Proofs.Cache.LocalTier

/-!
# What the tiers of a cache hold

A remote tier is known by what it answers. `Remote.Keeps` says that nobody else writes to it and that
each call either acts as on a map or fails without effect; `Remote.Faithful` that no call fails.

* `Layered.get_eq`, `set_eq` and `delete_eq` say what the operations of a cache do to its tiers.
* `Layered.far?` is what the remote tier holds. `get_fst` says what a lookup answers, and `near_get`,
  `near_set` and `near_delete`, `far_get`, `far_set` and `far_delete` what the tiers hold afterwards.
* `Layered.Holds` is about both tiers together, for a remote tier that is faithful.
-/

namespace Roster.Cache

open Roster.Time

variable {ρ : Type}

/-! ### Remote tiers -/

/-- In the states that satisfy `may`, a remote tier holds what `view` says, and each call acts as on a
map or fails without effect. -/
structure Remote.Keeps (r : Remote ρ) (may : ρ → Prop) (view : ρ → String → Option ByteArray) :
    Prop where
  get_ok {s : ρ} {key : String} {value : ByteArray} :
    may s → (r.get key s).1 = .ok value → view s key = some value
  get_far {s : ρ} (key : String) : may s → may (r.get key s).2 ∧ view (r.get key s).2 = view s
  set_far {s : ρ} (key : String) (value : ByteArray) (ttl : Duration) : may s →
    may (r.set key value ttl s).2 ∧
      ((r.set key value ttl s).1 = .ok () ∧
          (∀ k, view (r.set key value ttl s).2 k = if key = k then some value else view s k) ∨
        (∃ e, (r.set key value ttl s).1 = .error e) ∧ view (r.set key value ttl s).2 = view s)
  delete_far {s : ρ} (key : String) : may s →
    may (r.delete key s).2 ∧
      ((r.delete key s).1 = .ok () ∧
          (∀ k, view (r.delete key s).2 k = if key = k then none else view s k) ∨
        (∃ e, (r.delete key s).1 = .error e) ∧ view (r.delete key s).2 = view s)

/-- A remote tier that keeps what it is given and never fails. -/
structure Remote.Faithful (r : Remote ρ) (may : ρ → Prop) (view : ρ → String → Option ByteArray) :
    Prop extends Remote.Keeps r may view where
  get_found {s : ρ} {key : String} {value : ByteArray} :
    may s → view s key = some value → (r.get key s).1 = .ok value
  set_ok {s : ρ} (key : String) (value : ByteArray) (ttl : Duration) :
    may s → (r.set key value ttl s).1 = .ok ()
  delete_ok {s : ρ} (key : String) : may s → (r.delete key s).1 = .ok ()

namespace Layered

/-! ### The operations -/

/-- The counters after a write to the remote tier with this answer. -/
def tallied (stats : Stats) : Except Trouble Unit → Stats
  | .ok () => stats
  | .error _ => stats.advance .remoteError

theorem run_tallyTrouble (c : Layered ρ) (answer : Except Trouble Unit) (s : Tiers ρ) :
    ((tallyTrouble answer).run c.handle s).2 = { s with stats := tallied s.stats answer } := by
  cases answer <;> rfl

section Handle

variable {c : Layered ρ} {r : Slow ρ} (h : c.remote = some r)

include h

theorem handle_remoteGet (key : String) (s : Tiers ρ) :
    c.handle (.remoteGet key) s = (((r.within c.timeout).get key s.far).1,
      { s with far := ((r.within c.timeout).get key s.far).2 }) := by
  simp only [handle]
  rw [h]

theorem handle_remoteSet (key : String) (value : ByteArray) (s : Tiers ρ) :
    c.handle (.remoteSet key value) s = (((r.within c.timeout).set key value c.ttl s.far).1,
      { s with far := ((r.within c.timeout).set key value c.ttl s.far).2 }) := by
  simp only [handle]
  rw [h]

theorem handle_remoteDelete (key : String) (s : Tiers ρ) :
    c.handle (.remoteDelete key) s = (((r.within c.timeout).delete key s.far).1,
      { s with far := ((r.within c.timeout).delete key s.far).2 }) := by
  simp only [handle]
  rw [h]

end Handle

theorem get_eq (c : Layered ρ) (key : String) (s : Tiers ρ) :
    c.get key s = match s.near.get key with
      | (some value, near) => (some value, ⟨near, s.far, s.stats.advance .localHit⟩)
      | (none, near) =>
        match c.remote with
        | none => (none, ⟨near, s.far, s.stats.advance .miss⟩)
        | some r =>
          match (r.within c.timeout).get key s.far with
          | (.ok value, far) =>
            (some value, ⟨near.set key value value.size, far, s.stats.advance .remoteHit⟩)
          | (.error .miss, far) => (none, ⟨near, far, s.stats.advance .miss⟩)
          | (.error _, far) => (none, ⟨near, far, (s.stats.advance .remoteError).advance .miss⟩) := by
  simp only [get, lookUp]
  rw [Program.run_act]
  show Program.run _ _ ({ s with near := (s.near.get key).2 } : Tiers ρ) = _
  simp only [show (c.handle (.localGet key) s).1 = (s.near.get key).1 from rfl]
  rcases s.near.get key with ⟨_ | value, near⟩
  · unfold hasRemote
    cases hremote : c.remote with
    | none => rfl
    | some r =>
      rw [Option.isSome_some, if_pos rfl, Program.run_act, handle_remoteGet hremote]
      show Program.run _ _ ({ s with
        near := near, far := ((r.within c.timeout).get key s.far).2 } : Tiers ρ) = _
      dsimp only
      rcases (r.within c.timeout).get key s.far with ⟨e | value, far⟩
      · cases e <;> rfl
      · rfl
  · rfl

theorem set_eq (c : Layered ρ) (key : String) (value : ByteArray) (s : Tiers ρ) :
    c.set key value s = match c.remote with
      | none => { s with near := s.near.set key value value.size }
      | some r =>
        ⟨s.near.set key value value.size, ((r.within c.timeout).set key value c.ttl s.far).2,
          tallied s.stats ((r.within c.timeout).set key value c.ttl s.far).1⟩ := by
  simp only [set, store]
  rw [Program.run_act]
  unfold hasRemote
  cases hremote : c.remote with
  | none => rfl
  | some r =>
    rw [Option.isSome_some, if_pos rfl, Program.run_act, handle_remoteSet hremote]
    exact run_tallyTrouble c _ _

theorem delete_eq (c : Layered ρ) (key : String) (s : Tiers ρ) :
    c.delete key s = match c.remote with
      | none => { s with near := s.near.delete key }
      | some r =>
        ⟨s.near.delete key, ((r.within c.timeout).delete key s.far).2,
          tallied s.stats ((r.within c.timeout).delete key s.far).1⟩ := by
  simp only [delete, remove]
  rw [Program.run_act]
  unfold hasRemote
  cases hremote : c.remote with
  | none => rfl
  | some r =>
    rw [Option.isSome_some, if_pos rfl, Program.run_act, handle_remoteDelete hremote]
    exact run_tallyTrouble c _ _

section Remote

variable {c : Layered ρ} {r : Slow ρ} (h : c.remote = some r) (key : String) (s : Tiers ρ)

include h

theorem far_of_set (value : ByteArray) :
    (c.set key value s).far = ((r.within c.timeout).set key value c.ttl s.far).2 := by
  rw [set_eq, h]

theorem far_of_delete : (c.delete key s).far = ((r.within c.timeout).delete key s.far).2 := by
  rw [delete_eq, h]

/-- A lookup that the local tier answers does not reach the remote one. -/
theorem far_of_get : (c.get key s).2.far = s.far ∨
    (c.get key s).2.far = ((r.within c.timeout).get key s.far).2 := by
  rw [get_eq, h]
  rcases s.near.get key with ⟨_ | found, near⟩
  · dsimp only
    rcases (r.within c.timeout).get key s.far with ⟨e | found, far⟩
    · cases e <;> exact Or.inr rfl
    · exact Or.inr rfl
  · exact Or.inl rfl

end Remote

section Alone

variable {c : Layered ρ} (h : c.remote = none) (key : String) (s : Tiers ρ)

include h

theorem far_of_get_alone : (c.get key s).2.far = s.far := by
  rw [get_eq, h]
  rcases s.near.get key with ⟨_ | found, near⟩ <;> rfl

theorem far_of_set_alone (value : ByteArray) : (c.set key value s).far = s.far := by
  rw [set_eq, h]

theorem far_of_delete_alone : (c.delete key s).far = s.far := by
  rw [delete_eq, h]

end Alone

/-! ### What the tiers hold -/

/-- What the remote tier answers to a lookup, if there is one and it answers with a value. -/
def farAnswer? (c : Layered ρ) (key : String) (far : ρ) : Option ByteArray :=
  c.remote.bind fun r => ((r.within c.timeout).get key far).1.toOption

theorem farAnswer?_eq_some {c : Layered ρ} {key : String} {far : ρ} {value : ByteArray}
    (h : c.farAnswer? key far = some value) :
    ∃ r, c.remote = some r ∧ ((r.within c.timeout).get key far).1 = .ok value := by
  obtain ⟨r, hremote, hanswer⟩ := Option.bind_eq_some_iff.1 h
  refine ⟨r, hremote, ?_⟩
  cases hget : ((r.within c.timeout).get key far).1 with
  | error e => rw [hget] at hanswer; cases hanswer
  | ok v => rw [hget] at hanswer; rw [Option.some.inj hanswer]

/-- What the remote tier holds under a key, if there is one. -/
def far? (c : Layered ρ) (view : ρ → String → Option ByteArray) (s : Tiers ρ) (key : String) :
    Option ByteArray := if c.hasRemote then view s.far key else none

/-- The remote tier, if there is one, has no other writer, and its calls act as on a map or fail. -/
def Keeps (c : Layered ρ) (may : ρ → Prop) (view : ρ → String → Option ByteArray) : Prop :=
  ∀ r, c.remote = some r → (r.within c.timeout).Keeps may view

/-- The remote tier, if there is one, is a map that never fails. -/
def Faithful (c : Layered ρ) (may : ρ → Prop) (view : ρ → String → Option ByteArray) : Prop :=
  ∀ r, c.remote = some r → (r.within c.timeout).Faithful may view

theorem Faithful.keeps {c : Layered ρ} {may : ρ → Prop} {view : ρ → String → Option ByteArray}
    (h : c.Faithful may view) : c.Keeps may view := fun r hr => (h r hr).toKeeps

theorem far?_of_none {c : Layered ρ} (h : c.remote = none)
    (view : ρ → String → Option ByteArray) (s : Tiers ρ) (key : String) :
    c.far? view s key = none := by
  unfold far? hasRemote
  rw [h]
  rfl

theorem far?_of_some {c : Layered ρ} {r : Slow ρ} (h : c.remote = some r)
    (view : ρ → String → Option ByteArray) (s : Tiers ρ) (key : String) :
    c.far? view s key = view s.far key := by
  unfold far? hasRemote
  rw [h]
  rfl

/-- A lookup answers with what the local tier finds, and otherwise with what the remote tier
answers. -/
theorem get_fst (c : Layered ρ) (key : String) (s : Tiers ρ) :
    (c.get key s).1 = (s.near.find? key).or (c.farAnswer? key s.far) := by
  rw [get_eq, ← Local.get_fst]
  rcases s.near.get key with ⟨_ | value, near⟩
  · simp only [farAnswer?]
    cases c.remote with
    | none => rfl
    | some r =>
      dsimp only [Option.bind_some, Option.none_or]
      rcases (r.within c.timeout).get key s.far with ⟨e | value, far⟩
      · cases e <;> rfl
      · rfl
  · rfl

/-- Without a remote tier a lookup answers with what the local one finds. -/
theorem get_fst_alone {c : Layered ρ} (h : c.remote = none) (key : String) (s : Tiers ρ) :
    (c.get key s).1 = s.near.find? key := by
  rw [get_fst]
  simp only [farAnswer?]
  rw [h, Option.bind_none, Option.or_none]

/-- A lookup brings nothing into the local tier but its own answer. -/
theorem near_get {c : Layered ρ} {key other : String} {s : Tiers ρ} {value : ByteArray}
    (h : (c.get key s).2.near.find? other = some value) :
    s.near.find? other = some value ∨ key = other ∧ (c.get key s).1 = some value := by
  rw [get_eq] at h ⊢
  have hbefore : ∀ v, (s.near.get key).2.find? other = some v → s.near.find? other = some v :=
    fun v hv => Local.find?_get hv
  revert h hbefore
  rcases s.near.get key with ⟨_ | found, near⟩
  · cases c.remote with
    | none => exact fun h hbefore => Or.inl (hbefore _ h)
    | some r =>
      dsimp only
      rcases (r.within c.timeout).get key s.far with ⟨e | found, far⟩
      · cases e <;> exact fun h hbefore => Or.inl (hbefore _ h)
      · intro h hbefore
        have hset := Local.find?_set h
        by_cases hk : key = other
        · rw [if_pos hk] at hset
          exact Or.inr ⟨hk, by rw [hset]⟩
        · rw [if_neg hk] at hset
          exact Or.inl (hbefore _ hset)
  · exact fun h hbefore => Or.inl (hbefore _ h)

theorem near_set {c : Layered ρ} {key other : String} {s : Tiers ρ} {value found : ByteArray}
    (h : (c.set key value s).near.find? other = some found) :
    key = other ∧ found = value ∨ key ≠ other ∧ s.near.find? other = some found := by
  have hnear : (s.near.set key value value.size).find? other = some found := by
    rw [← h, set_eq]
    cases c.remote <;> rfl
  have hset := Local.find?_set hnear
  by_cases hk : key = other
  · rw [if_pos hk] at hset
    exact Or.inl ⟨hk, hset⟩
  · rw [if_neg hk] at hset
    exact Or.inr ⟨hk, hset⟩

theorem near_delete {c : Layered ρ} {key other : String} {s : Tiers ρ} {found : ByteArray}
    (h : (c.delete key s).near.find? other = some found) :
    key ≠ other ∧ s.near.find? other = some found := by
  rw [delete_eq] at h
  revert h
  cases c.remote with
  | none => exact fun h => Local.find?_delete h
  | some r => exact fun h => Local.find?_delete h

section Keeps

variable {c : Layered ρ} {may : ρ → Prop} {view : ρ → String → Option ByteArray}
  (h : c.Keeps may view) {s : Tiers ρ} (hs : may s.far)

include h hs

/-- The remote tier answers nothing but what it holds. -/
theorem far?_of_farAnswer? {key : String} {value : ByteArray}
    (ha : c.farAnswer? key s.far = some value) : c.far? view s key = some value := by
  obtain ⟨r, hremote, hget⟩ := farAnswer?_eq_some ha
  rw [far?_of_some hremote]
  exact (h r hremote).get_ok hs hget

/-- A lookup leaves the remote tier as it is. -/
theorem far_get (key : String) :
    may (c.get key s).2.far ∧ c.far? view (c.get key s).2 = c.far? view s := by
  cases hremote : c.remote with
  | none =>
    refine ⟨?_, funext fun k => by rw [far?_of_none hremote, far?_of_none hremote]⟩
    rw [far_of_get_alone hremote]
    exact hs
  | some r =>
    have hfar := (h r hremote).get_far key hs
    rcases far_of_get hremote key s with he | he
    · refine ⟨he ▸ hs, funext fun k => ?_⟩
      rw [far?_of_some hremote, far?_of_some hremote, he]
    · refine ⟨he ▸ hfar.1, funext fun k => ?_⟩
      rw [far?_of_some hremote, far?_of_some hremote, he, hfar.2]

/-- Setting a value sets it in the remote tier too, or leaves that tier as it is. -/
theorem far_set (key : String) (value : ByteArray) :
    may (c.set key value s).far ∧
      ((∀ k, c.far? view (c.set key value s) k = if key = k then some value else c.far? view s k) ∨
        c.far? view (c.set key value s) = c.far? view s) := by
  cases hremote : c.remote with
  | none =>
    refine ⟨?_, Or.inr (funext fun k => by rw [far?_of_none hremote, far?_of_none hremote])⟩
    rw [far_of_set_alone hremote]
    exact hs
  | some r =>
    obtain ⟨hmay, hfar⟩ := (h r hremote).set_far key value c.ttl hs
    have hstate := far_of_set hremote key s value
    refine ⟨hstate ▸ hmay, ?_⟩
    rcases hfar with ⟨-, hview⟩ | ⟨-, hview⟩
    · refine Or.inl fun k => ?_
      rw [far?_of_some hremote, far?_of_some hremote, hstate, hview]
    · refine Or.inr (funext fun k => ?_)
      rw [far?_of_some hremote, far?_of_some hremote, hstate, hview]

/-- Removing a key removes it from the remote tier too, or leaves that tier as it is. -/
theorem far_delete (key : String) :
    may (c.delete key s).far ∧
      ((∀ k, c.far? view (c.delete key s) k = if key = k then none else c.far? view s k) ∨
        c.far? view (c.delete key s) = c.far? view s) := by
  cases hremote : c.remote with
  | none =>
    refine ⟨?_, Or.inr (funext fun k => by rw [far?_of_none hremote, far?_of_none hremote])⟩
    rw [far_of_delete_alone hremote]
    exact hs
  | some r =>
    obtain ⟨hmay, hfar⟩ := (h r hremote).delete_far key hs
    have hstate := far_of_delete hremote key s
    refine ⟨hstate ▸ hmay, ?_⟩
    rcases hfar with ⟨-, hview⟩ | ⟨-, hview⟩
    · refine Or.inl fun k => ?_
      rw [far?_of_some hremote, far?_of_some hremote, hstate, hview]
    · refine Or.inr (funext fun k => ?_)
      rw [far?_of_some hremote, far?_of_some hremote, hstate, hview]

end Keeps

/-! ### Both tiers together -/

/-- One of the tiers holds a value under a key. -/
def Holds (c : Layered ρ) (view : ρ → String → Option ByteArray) (s : Tiers ρ) (key : String)
    (value : ByteArray) : Prop :=
  s.near.find? key = some value ∨ c.far? view s key = some value

section Faithful

variable {c : Layered ρ} {may : ρ → Prop} {view : ρ → String → Option ByteArray}
  (h : c.Faithful may view) {s : Tiers ρ} (hs : may s.far)

include h hs

/-- A remote tier that is a map holds what was set. -/
theorem view_set {r : Slow ρ} (hremote : c.remote = some r) (key : String) (value : ByteArray)
    (k : String) :
    view (c.set key value s).far k = if key = k then some value else view s.far k := by
  rw [far_of_set hremote]
  rcases ((h r hremote).set_far key value c.ttl hs).2 with ⟨-, hview⟩ | ⟨⟨e, he⟩, -⟩
  · exact hview k
  · rw [(h r hremote).set_ok key value c.ttl hs] at he
    cases he

/-- A remote tier that is a map holds no more what was removed. -/
theorem view_delete {r : Slow ρ} (hremote : c.remote = some r) (key k : String) :
    view (c.delete key s).far k = if key = k then none else view s.far k := by
  rw [far_of_delete hremote]
  rcases ((h r hremote).delete_far key hs).2 with ⟨-, hview⟩ | ⟨⟨e, he⟩, -⟩
  · exact hview k
  · rw [(h r hremote).delete_ok key hs] at he
    cases he

/-- A lookup answers nothing but what one of the tiers holds. -/
theorem holds_of_get {key : String} {value : ByteArray} (hg : (c.get key s).1 = some value) :
    c.Holds view s key value := by
  rw [get_fst, Option.or_eq_some_iff] at hg
  rcases hg with hnear | ⟨-, hfar⟩
  · exact Or.inl hnear
  · exact Or.inr (far?_of_farAnswer? h.keeps hs hfar)

/-- A lookup brings nothing into the tiers that none of them held. -/
theorem holds_before_get {key other : String} {value : ByteArray}
    (hg : c.Holds view (c.get key s).2 other value) : c.Holds view s other value := by
  rcases hg with hnear | hfar
  · rcases near_get hnear with hnear | ⟨rfl, hfst⟩
    · exact Or.inl hnear
    · exact holds_of_get h hs hfst
  · rw [(far_get h.keeps hs key).2] at hfar
    exact Or.inr hfar

/-- After setting a value both tiers hold that value under the key, or nothing. -/
theorem holds_before_set {key other : String} {value found : ByteArray}
    (hg : c.Holds view (c.set key value s) other found) :
    key = other ∧ found = value ∨ key ≠ other ∧ c.Holds view s other found := by
  rcases hg with hnear | hfar
  · rcases near_set hnear with hset | ⟨hk, hbefore⟩
    · exact Or.inl hset
    · exact Or.inr ⟨hk, Or.inl hbefore⟩
  · cases hremote : c.remote with
    | none => rw [far?_of_none hremote] at hfar; cases hfar
    | some r =>
      rw [far?_of_some hremote, view_set h hs hremote] at hfar
      by_cases hk : key = other
      · rw [if_pos hk] at hfar
        exact Or.inl ⟨hk, (Option.some.inj hfar).symm⟩
      · rw [if_neg hk] at hfar
        exact Or.inr ⟨hk, Or.inr (by rw [far?_of_some hremote]; exact hfar)⟩

/-- After a removal no tier holds anything under the key. -/
theorem holds_before_delete {key other : String} {found : ByteArray}
    (hg : c.Holds view (c.delete key s) other found) :
    key ≠ other ∧ c.Holds view s other found := by
  rcases hg with hnear | hfar
  · obtain ⟨hk, hbefore⟩ := near_delete hnear
    exact ⟨hk, Or.inl hbefore⟩
  · cases hremote : c.remote with
    | none => rw [far?_of_none hremote] at hfar; cases hfar
    | some r =>
      rw [far?_of_some hremote, view_delete h hs hremote] at hfar
      by_cases hk : key = other
      · rw [if_pos hk] at hfar
        cases hfar
      · rw [if_neg hk] at hfar
        exact ⟨hk, Or.inr (by rw [far?_of_some hremote]; exact hfar)⟩

end Faithful

/-! ### What is tracked -/

/-- What is held of a cache changes by its operations alone: a lookup brings in nothing but its own
answer, setting a value brings in nothing else, and a removal nothing at all. What is *firm* never
holds anything else under a key after setting a value, and nothing after a removal. -/
structure Tracked (c : Layered ρ) (may : ρ → Prop) (firm : Prop)
    (held : Tiers ρ → String → ByteArray → Prop) : Prop where
  may_get {s : Tiers ρ} (key : String) : may s.far → may (c.get key s).2.far
  may_set {s : Tiers ρ} (key : String) (value : ByteArray) : may s.far → may (c.set key value s).far
  may_delete {s : Tiers ρ} (key : String) : may s.far → may (c.delete key s).far
  of_get {s : Tiers ρ} {key other : String} {value : ByteArray} :
    may s.far → held (c.get key s).2 other value →
      held s other value ∨ key = other ∧ (c.get key s).1 = some value
  of_set {s : Tiers ρ} {key other : String} {value found : ByteArray} :
    may s.far → held (c.set key value s) other found →
      key = other ∧ found = value ∨ (firm → key ≠ other) ∧ held s other found
  of_delete {s : Tiers ρ} {key other : String} {found : ByteArray} :
    may s.far → held (c.delete key s) other found → (firm → key ≠ other) ∧ held s other found

/-- What is tracked is *traced* if lookups answer with nothing else. -/
structure Traced (c : Layered ρ) (may : ρ → Prop) (firm : Prop)
    (held : Tiers ρ → String → ByteArray → Prop) : Prop extends Tracked c may firm held where
  of_answer {s : Tiers ρ} {key : String} {value : ByteArray} :
    may s.far → (c.get key s).1 = some value → held s key value

section Tracked

variable {c : Layered ρ} {may : ρ → Prop} {view : ρ → String → Option ByteArray}

/-- The local tier alone is firm, whatever the remote tier fails to do. -/
theorem Keeps.tracked_near (h : c.Keeps may view) :
    c.Tracked may True fun s key value => s.near.find? key = some value where
  may_get key hs := (far_get h hs key).1
  may_set key value hs := (far_set h hs key value).1
  may_delete key hs := (far_delete h hs key).1
  of_get _ hg := near_get hg
  of_set _ hg := (near_set hg).imp id fun hset => ⟨fun _ => hset.1, hset.2⟩
  of_delete _ hg := ⟨fun _ => (near_delete hg).1, (near_delete hg).2⟩

/-- The remote tier alone is tracked too, but not firm. -/
theorem Keeps.tracked_far (h : c.Keeps may view) :
    c.Tracked may False fun s key value => c.far? view s key = some value where
  may_get key hs := (far_get h hs key).1
  may_set key value hs := (far_set h hs key value).1
  may_delete key hs := (far_delete h hs key).1
  of_get {s key other value} hs hg := by
    rw [(far_get h hs key).2] at hg
    exact Or.inl hg
  of_set {s key other value found} hs hg := by
    rcases (far_set h hs key value).2 with hset | hsame
    · rw [hset] at hg
      by_cases hk : key = other
      · rw [if_pos hk] at hg
        exact Or.inl ⟨hk, (Option.some.inj hg).symm⟩
      · rw [if_neg hk] at hg
        exact Or.inr ⟨False.elim, hg⟩
    · rw [hsame] at hg
      exact Or.inr ⟨False.elim, hg⟩
  of_delete {s key other found} hs hg := by
    rcases (far_delete h hs key).2 with hdelete | hsame
    · rw [hdelete] at hg
      by_cases hk : key = other
      · rw [if_pos hk] at hg
        cases hg
      · rw [if_neg hk] at hg
        exact ⟨False.elim, hg⟩
    · rw [hsame] at hg
      exact ⟨False.elim, hg⟩

/-- Both tiers together are firm if the remote one is faithful. -/
theorem Faithful.tracked (h : c.Faithful may view) : c.Tracked may True (c.Holds view) where
  may_get key hs := (far_get h.keeps hs key).1
  may_set key value hs := (far_set h.keeps hs key value).1
  may_delete key hs := (far_delete h.keeps hs key).1
  of_get hs hg := Or.inl (holds_before_get h hs hg)
  of_set hs hg := (holds_before_set h hs hg).imp id fun hset => ⟨fun _ => hset.1, hset.2⟩
  of_delete hs hg := ⟨fun _ => (holds_before_delete h hs hg).1, (holds_before_delete h hs hg).2⟩

theorem Faithful.traced (h : c.Faithful may view) : c.Traced may True (c.Holds view) where
  toTracked := h.tracked
  of_answer hs hg := holds_of_get h hs hg

/-- Without a remote tier the local one is traced. -/
theorem traced_alone (h : c.remote = none) :
    c.Traced may True fun s key value => s.near.find? key = some value where
  toTracked := by
    have hkeeps : c.Keeps may fun _ _ => none := by
      intro r hr
      rw [h] at hr
      cases hr
    exact hkeeps.tracked_near
  of_answer {s key value} hs hg := by
    rwa [get_fst_alone h] at hg

end Tracked

/-- A cache without a remote tier. -/
def alone (ttl timeout : Duration) : Layered Unit := ⟨none, ttl, timeout⟩

end Layered

/-! ### A simulated map -/

/-- What a simulated tier holds. -/
def Simulated.view (s : Simulated) (key : String) : Option ByteArray := Keyed.get? s.entries key

theorem Simulated.view_of_lookUp {s : Simulated} {key : String} {value : ByteArray}
    (h : s.lookUp key = .ok value) : s.view key = some value := by
  simp only [Simulated.lookUp] at h
  simp only [Simulated.view]
  cases hv : Keyed.get? s.entries key with
  | none => rw [hv] at h; cases h
  | some v => rw [hv] at h; rw [Except.ok.inj h]

/-- A call that takes no time is never given up. -/
theorem Attempt.within_at_once {α : Type} (limit : Duration) (started ended : ρ)
    (answer : Except Trouble α) :
    Attempt.within limit ⟨some ⟨0⟩, started, answer, ended⟩ = (answer, ended) := by
  simp [Attempt.within]

theorem Simulated.attempt_within {α : Type} {s : Simulated} (hs : s.behaviour = .map)
    (limit : Duration) (asMap : Except Trouble α × Simulated) (asEmpty : Except Trouble α) :
    (s.attempt asMap asEmpty).within limit = asMap := by
  simp only [Simulated.attempt]
  rw [hs]
  exact Attempt.within_at_once limit ..

section Simulated

variable {s : Simulated} (hs : s.behaviour = .map) (limit : Duration)

include hs

theorem Simulated.get_map (key : String) :
    (Simulated.tier.within limit).get key s = (s.lookUp key, s.note (.get key)) :=
  Simulated.attempt_within (s := s.note (.get key)) hs limit _ _

theorem Simulated.set_map (key : String) (value : ByteArray) (ttl : Duration) :
    (Simulated.tier.within limit).set key value ttl s =
      (.ok (), { s.note (.set key value.size ttl) with entries := Keyed.put s.entries key value }) :=
  Simulated.attempt_within (s := s.note (.set key value.size ttl)) hs limit _ _

theorem Simulated.delete_map (key : String) :
    (Simulated.tier.within limit).delete key s =
      (.ok (), { s.note (.delete key) with entries := Keyed.erase s.entries key }) :=
  Simulated.attempt_within (s := s.note (.delete key)) hs limit _ _

end Simulated

/-- A simulated tier that behaves as a map is faithful, however little time it is given. -/
theorem Simulated.faithful (limit : Duration) :
    (Simulated.tier.within limit).Faithful (fun s => s.behaviour = .map) Simulated.view where
  get_ok {s key value} hs hg := by
    rw [Simulated.get_map hs] at hg
    exact Simulated.view_of_lookUp hg
  get_far key hs := by
    rw [Simulated.get_map hs]
    exact ⟨hs, rfl⟩
  set_far key value ttl hs := by
    rw [Simulated.set_map hs]
    exact ⟨hs, Or.inl ⟨rfl, fun k => Keyed.get?_put _ key k value⟩⟩
  delete_far key hs := by
    rw [Simulated.delete_map hs]
    exact ⟨hs, Or.inl ⟨rfl, fun k => Keyed.get?_erase _ key k⟩⟩
  get_found {s key value} hs hv := by
    rw [Simulated.get_map hs]
    simp only [Simulated.view] at hv
    simp only [Simulated.lookUp]
    rw [hv]
  set_ok key value ttl hs := by rw [Simulated.set_map hs]
  delete_ok key hs := by rw [Simulated.delete_map hs]

/-- A cache in front of a simulated tier. -/
def Simulated.layered (ttl timeout : Duration) : Layered Simulated :=
  ⟨some Simulated.tier, ttl, timeout⟩

theorem Simulated.layered_faithful (ttl timeout : Duration) :
    (Simulated.layered ttl timeout).Faithful (fun s => s.behaviour = .map) Simulated.view := by
  intro r hr
  rw [← Option.some.inj hr]
  exact Simulated.faithful timeout

end Roster.Cache
