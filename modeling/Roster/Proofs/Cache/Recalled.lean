import Roster.Proofs.Cache.Tiers

/-!
# A remote tier of which little is known

A call on a remote tier that is given up may have its effect all the same: at once, later, or never.
Such a tier does not act as a map, but it makes nothing up: under a key it answers only with values
that were sent to it for that key.

* `Remote.Recalls` says so, whatever calls do otherwise. `Layered.Known` is what a lookup may come to
  find then, and `Recalls.traced` says that only `set` adds to it.
* `Wayward` is a simulated tier whose calls act as on a map, fail, or are given up and take effect
  when they like, as it is laid down for each call; `Wayward.recalls` is about all of them.
-/

namespace Roster.Cache

open Roster.Time

variable {ρ : Type}

/-! ### What was sent -/

/-- In the states that satisfy `may`, a remote tier answers with nothing but what it was sent under the
key. Whether calls succeed, when they take effect and what is lost meanwhile is left open. -/
structure Remote.Recalls (r : Remote ρ) (may : ρ → Prop) (sent : ρ → String → ByteArray → Prop) :
    Prop where
  get_ok {s : ρ} {key : String} {value : ByteArray} :
    may s → (r.get key s).1 = .ok value → sent s key value
  get_sent {s : ρ} (key : String) : may s →
    may (r.get key s).2 ∧ ∀ {k v}, sent (r.get key s).2 k v → sent s k v
  set_sent {s : ρ} (key : String) (value : ByteArray) (ttl : Duration) : may s →
    may (r.set key value ttl s).2 ∧
      ∀ {k v}, sent (r.set key value ttl s).2 k v → key = k ∧ v = value ∨ sent s k v
  delete_sent {s : ρ} (key : String) : may s →
    may (r.delete key s).2 ∧ ∀ {k v}, sent (r.delete key s).2 k v → sent s k v

namespace Layered

/-- The remote tier, if there is one, makes nothing up. -/
def Recalls (c : Layered ρ) (may : ρ → Prop) (sent : ρ → String → ByteArray → Prop) : Prop :=
  ∀ r, c.remote = some r → (r.within c.timeout).Recalls may sent

/-- What a lookup may come to find under a key: what the local tier finds, and what was ever sent to
the remote tier, if there is one. -/
def Known (c : Layered ρ) (sent : ρ → String → ByteArray → Prop) (s : Tiers ρ) (key : String)
    (value : ByteArray) : Prop :=
  s.near.find? key = some value ∨ c.hasRemote = true ∧ sent s.far key value

/-- In tiers without entries nothing is known. -/
theorem not_known_start {c : Layered ρ} {sent : ρ → String → ByteArray → Prop} {near : Local} {far : ρ}
    (hnear : near.entries = []) (hfar : ∀ key value, ¬ sent far key value) (key : String)
    (value : ByteArray) : ¬ c.Known sent (start near far) key value := by
  rintro (hfind | ⟨-, hsent⟩)
  · simp only [start] at hfind
    rw [Local.find?_of_no_entries hnear] at hfind
    cases hfind
  · exact hfar key value hsent

namespace Recalls

variable {c : Layered ρ} {may : ρ → Prop} {sent : ρ → String → ByteArray → Prop}
  (h : c.Recalls may sent)

include h

theorem far_get {s : Tiers ρ} (hs : may s.far) (key : String) :
    may (c.get key s).2.far ∧
      ∀ {k v}, c.hasRemote = true ∧ sent (c.get key s).2.far k v →
        c.hasRemote = true ∧ sent s.far k v := by
  cases hremote : c.remote with
  | none =>
    rw [far_of_get_alone hremote]
    exact ⟨hs, id⟩
  | some r =>
    obtain ⟨hmay, hsent⟩ := (h r hremote).get_sent key hs
    rcases far_of_get hremote key s with he | he
    · rw [he]
      exact ⟨hs, id⟩
    · rw [he]
      exact ⟨hmay, fun hv => ⟨hv.1, hsent hv.2⟩⟩

theorem far_set {s : Tiers ρ} (hs : may s.far) (key : String) (value : ByteArray) :
    may (c.set key value s).far ∧
      ∀ {k v}, c.hasRemote = true ∧ sent (c.set key value s).far k v →
        key = k ∧ v = value ∨ c.hasRemote = true ∧ sent s.far k v := by
  cases hremote : c.remote with
  | none =>
    rw [far_of_set_alone hremote]
    exact ⟨hs, Or.inr⟩
  | some r =>
    obtain ⟨hmay, hsent⟩ := (h r hremote).set_sent key value c.ttl hs
    rw [far_of_set hremote]
    exact ⟨hmay, fun hv => (hsent hv.2).imp id fun hbefore => ⟨hv.1, hbefore⟩⟩

theorem far_delete {s : Tiers ρ} (hs : may s.far) (key : String) :
    may (c.delete key s).far ∧
      ∀ {k v}, c.hasRemote = true ∧ sent (c.delete key s).far k v →
        c.hasRemote = true ∧ sent s.far k v := by
  cases hremote : c.remote with
  | none =>
    rw [far_of_delete_alone hremote]
    exact ⟨hs, id⟩
  | some r =>
    obtain ⟨hmay, hsent⟩ := (h r hremote).delete_sent key hs
    rw [far_of_delete hremote]
    exact ⟨hmay, fun hv => ⟨hv.1, hsent hv.2⟩⟩

/-- Nothing becomes known but by being set, and lookups answer nothing else. -/
theorem traced : c.Traced may False (c.Known sent) where
  may_get key hs := (h.far_get hs key).1
  may_set key value hs := (h.far_set hs key value).1
  may_delete key hs := (h.far_delete hs key).1
  of_get {s key other value} hs hg := by
    rcases hg with hnear | hfar
    · exact (near_get hnear).imp Or.inl id
    · exact Or.inl (Or.inr ((h.far_get hs key).2 hfar))
  of_set {s key other value found} hs hg := by
    rcases hg with hnear | hfar
    · exact (near_set hnear).imp id fun hset => ⟨False.elim, Or.inl hset.2⟩
    · exact ((h.far_set hs key value).2 hfar).imp id fun hset => ⟨False.elim, Or.inr hset⟩
  of_delete {s key other found} hs hg := by
    refine ⟨False.elim, ?_⟩
    rcases hg with hnear | hfar
    · exact Or.inl (near_delete hnear).2
    · exact Or.inr ((h.far_delete hs key).2 hfar)
  of_answer {s key value} hs hg := by
    rw [get_fst, Option.or_eq_some_iff] at hg
    rcases hg with hnear | ⟨-, hfar⟩
    · exact Or.inl hnear
    · obtain ⟨r, hremote, hget⟩ := farAnswer?_eq_some hfar
      refine Or.inr ⟨?_, (h r hremote).get_ok hs hget⟩
      simp only [hasRemote]
      rw [hremote, Option.isSome_some]

end Recalls

end Layered

/-! ### A tier with a will of its own -/

/-- A change of what a tier holds. -/
inductive Change where
  | put (key : String) (value : ByteArray)
  | erase (key : String)

/-- What a tier holds after a change. -/
def Change.apply (m : Keyed String ByteArray) : Change → Keyed String ByteArray
  | .put key value => Keyed.put m key value
  | .erase key => Keyed.erase m key

/-- What becomes of a call. -/
inductive Fate where
  /-- It acts as on a map. -/
  | works
  /-- It fails and has no effect. -/
  | fails (trouble : Trouble)
  /-- It is given up. What it was to change takes effect all the same once so many more calls have been
  made, or never. -/
  | late (after : Option Nat)

/-- A tier for which the fate of every call is laid down. -/
structure Wayward where
  fates : Nat → Fate
  /-- The number of calls so far. -/
  called : Nat
  entries : Keyed String ByteArray
  /-- Changes that have still to take effect, each with the number of the call before which it does. -/
  waiting : List (Nat × Change)

namespace Wayward

/-- A tier that holds nothing and has not been called. -/
def ofFates (fates : Nat → Fate) : Wayward := ⟨fates, 0, [], []⟩

/-- The tier once the changes have taken effect that do so before the next call. -/
def settle (s : Wayward) : Wayward :=
  { s with
    entries := (s.waiting.filter (·.1 ≤ s.called)).foldl (fun m w => w.2.apply m) s.entries
    waiting := s.waiting.filter (s.called < ·.1) }

/-- The tier after a change, if there is one. -/
def make (s : Wayward) : Option Change → Wayward
  | some c => { s with entries := c.apply s.entries }
  | none => s

/-- The tier with a change, if there is one, that takes effect after so many more calls. -/
def postpone (s : Wayward) (after : Nat) : Option Change → Wayward
  | some c => { s with waiting := s.waiting ++ [(s.called + after, c)] }
  | none => s

/-- A call that is to make a change and to answer from what the tier holds. -/
def attempt {α : Type} (s : Wayward) (change : Option Change)
    (answer : Keyed String ByteArray → Except Trouble α) : Attempt Wayward α :=
  let t := { s.settle with called := s.called + 1 }
  match s.fates s.called with
  | .works => ⟨some ⟨0⟩, t, answer t.entries, t.make change⟩
  | .fails trouble => ⟨some ⟨0⟩, t, .error trouble, t⟩
  | .late (some after) => ⟨none, t.postpone after change, .error .miss, t⟩
  | .late none => ⟨none, t, .error .miss, t⟩

/-- What a map answers to a lookup. -/
def found (key : String) (entries : Keyed String ByteArray) : Except Trouble ByteArray :=
  match Keyed.get? entries key with
  | some value => .ok value
  | none => .error .miss

/-- The tier whose calls have their fates. -/
def remote : Slow Wayward where
  get key s := s.attempt none (found key)
  set key value _ s := s.attempt (some (.put key value)) fun _ => .ok ()
  delete key s := s.attempt (some (.erase key)) fun _ => .ok ()

/-- What the tier holds or is still to hold under a key. -/
def sent (s : Wayward) (key : String) (value : ByteArray) : Prop :=
  Keyed.get? s.entries key = some value ∨ ∃ n, (n, Change.put key value) ∈ s.waiting

theorem not_sent_ofFates (fates : Nat → Fate) (key : String) (value : ByteArray) :
    ¬ (ofFates fates).sent key value := by
  rintro (hentry | ⟨n, hwaiting⟩)
  · cases hentry
  · cases hwaiting

/-! ### Nothing is made up -/

theorem get?_apply {m : Keyed String ByteArray} {c : Change} {key : String} {value : ByteArray}
    (h : Keyed.get? (c.apply m) key = some value) :
    c = .put key value ∨ Keyed.get? m key = some value := by
  cases c with
  | put k v =>
    simp only [Change.apply, Keyed.get?_put] at h
    by_cases hk : k = key
    · rw [if_pos hk] at h
      rw [hk, Option.some.inj h]
      exact Or.inl rfl
    · rw [if_neg hk] at h
      exact Or.inr h
  | erase k =>
    simp only [Change.apply, Keyed.get?_erase] at h
    by_cases hk : k = key
    · rw [if_pos hk] at h
      cases h
    · rw [if_neg hk] at h
      exact Or.inr h

/-- Whatever is held after many changes was put by one of them, or was held before. -/
theorem get?_applyAll {changes : List (Nat × Change)} {m : Keyed String ByteArray} {key : String}
    {value : ByteArray}
    (h : Keyed.get? (changes.foldl (fun m w => w.2.apply m) m) key = some value) :
    (∃ n, (n, Change.put key value) ∈ changes) ∨ Keyed.get? m key = some value := by
  induction changes generalizing m with
  | nil => exact Or.inr h
  | cons w changes ih =>
    obtain ⟨n, c⟩ := w
    rcases ih h with ⟨k, hk⟩ | hbefore
    · exact Or.inl ⟨k, List.mem_cons_of_mem _ hk⟩
    · rcases get?_apply hbefore with rfl | hbefore
      · exact Or.inl ⟨n, List.mem_cons_self⟩
      · exact Or.inr hbefore

variable {s : Wayward} {key : String} {value : ByteArray}

theorem sent_of_settle (h : s.settle.sent key value) : s.sent key value := by
  rcases h with hentry | ⟨n, hn⟩
  · rcases get?_applyAll hentry with ⟨n, hn⟩ | hbefore
    · exact Or.inr ⟨n, (List.mem_filter.1 hn).1⟩
    · exact Or.inl hbefore
  · exact Or.inr ⟨n, (List.mem_filter.1 hn).1⟩

theorem sent_of_make {change : Option Change} (h : (s.make change).sent key value) :
    change = some (.put key value) ∨ s.sent key value := by
  cases change with
  | none => exact Or.inr h
  | some c =>
    rcases h with hentry | hwaiting
    · exact (get?_apply hentry).imp (congrArg some) Or.inl
    · exact Or.inr (Or.inr hwaiting)

theorem sent_of_postpone {change : Option Change} {after : Nat}
    (h : (s.postpone after change).sent key value) :
    change = some (.put key value) ∨ s.sent key value := by
  cases change with
  | none => exact Or.inr h
  | some c =>
    rcases h with hentry | ⟨n, hn⟩
    · exact Or.inr (Or.inl hentry)
    · rcases List.mem_append.1 hn with hn | hn
      · exact Or.inr (Or.inr ⟨n, hn⟩)
      · obtain ⟨-, hc⟩ := Prod.mk.inj (List.mem_singleton.1 hn)
        exact Or.inl (by rw [hc])

/-- Whatever becomes of a call, it leaves behind what was sent before and the change it was to make. -/
theorem sent_of_attempt {α : Type} {change : Option Change}
    {answer : Keyed String ByteArray → Except Trouble α} {limit : Duration}
    (h : ((s.attempt change answer).within limit).2.sent key value) :
    change = some (.put key value) ∨ s.sent key value := by
  simp only [attempt] at h
  cases hfate : s.fates s.called with
  | works =>
    rw [hfate] at h
    simp only [Attempt.within_at_once] at h
    exact (sent_of_make h).imp id sent_of_settle
  | fails trouble =>
    rw [hfate] at h
    simp only [Attempt.within_at_once] at h
    exact Or.inr (sent_of_settle h)
  | late after =>
    cases after with
    | none =>
      rw [hfate] at h
      exact Or.inr (sent_of_settle h)
    | some n =>
      rw [hfate] at h
      exact (sent_of_postpone h).imp id sent_of_settle

/-- A call is answered from what the tier holds, or not at all. -/
theorem answer_of_attempt {α : Type} {change : Option Change}
    {answer : Keyed String ByteArray → Except Trouble α} {limit : Duration} {a : α}
    (h : ((s.attempt change answer).within limit).1 = .ok a) : answer s.settle.entries = .ok a := by
  simp only [attempt] at h
  cases hfate : s.fates s.called with
  | works =>
    rw [hfate] at h
    simp only [Attempt.within_at_once] at h
    exact h
  | fails trouble =>
    rw [hfate] at h
    simp only [Attempt.within_at_once] at h
    cases h
  | late after =>
    rw [hfate] at h
    cases after <;> cases h

theorem get?_of_found {entries : Keyed String ByteArray} (h : found key entries = .ok value) :
    Keyed.get? entries key = some value := by
  simp only [found] at h
  cases hv : Keyed.get? entries key with
  | none => rw [hv] at h; cases h
  | some v => rw [hv] at h; rw [Except.ok.inj h]

/-- Whatever the fates of its calls, the tier makes nothing up. -/
theorem recalls (limit : Duration) : (remote.within limit).Recalls (fun _ => True) sent where
  get_ok _ hg := sent_of_settle (Or.inl (get?_of_found (answer_of_attempt hg)))
  get_sent key _ := by
    refine ⟨trivial, fun hv => ?_⟩
    rcases sent_of_attempt hv with hput | hbefore
    · cases hput
    · exact hbefore
  set_sent key value ttl _ := by
    refine ⟨trivial, fun hv => (sent_of_attempt hv).imp (fun hput => ?_) id⟩
    cases hput
    exact ⟨rfl, rfl⟩
  delete_sent key _ := by
    refine ⟨trivial, fun hv => ?_⟩
    rcases sent_of_attempt hv with hput | hbefore
    · cases hput
    · exact hbefore

/-- A cache in front of the tier. -/
def layered (ttl timeout : Duration) : Layered Wayward := ⟨some remote, ttl, timeout⟩

theorem layered_recalls (ttl timeout : Duration) :
    (layered ttl timeout).Recalls (fun _ => True) sent := by
  intro r hr
  rw [← Option.some.inj hr]
  exact recalls timeout

end Wayward

end Roster.Cache
