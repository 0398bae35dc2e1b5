/-!
# Values under keys

A finite map as a list of pairs in which a key occurs at most once: rows of a table, entries of a
cache. The order of the pairs means nothing.

* `get?_put` and `get?_erase` say what a key finds after a change.
* `get?_eq_some_iff` says that a key finds exactly what is kept under it.
* `nodup_put` and `nodup_erase` say that no key comes twice.
-/

namespace Roster

/-- Values under keys. -/
abbrev Keyed (κ α : Type) := List (κ × α)

namespace Keyed

variable {κ α : Type} [DecidableEq κ]

/-- The value under a key. -/
def get? (m : Keyed κ α) (k : κ) : Option α := (m.find? fun e => e.1 = k).map (·.2)

/-- Whether there is a value under a key. -/
def has (m : Keyed κ α) (k : κ) : Bool := m.any fun e => e.1 = k

/-- The values without the one under a key. -/
def erase (m : Keyed κ α) (k : κ) : Keyed κ α := m.filter fun e => e.1 ≠ k

/-- The values with one under a key, in place of any that was there. -/
def put (m : Keyed κ α) (k : κ) (a : α) : Keyed κ α := (k, a) :: erase m k

/-- The keys. -/
def keys (m : Keyed κ α) : List κ := m.map (·.1)

/-- Whether no key comes twice. -/
def Nodup (m : Keyed κ α) : Prop := (keys m).Nodup

@[simp] theorem get?_nil (k : κ) : get? ([] : Keyed κ α) k = none := rfl

theorem get?_cons (e : κ × α) (m : Keyed κ α) (k : κ) :
    get? (e :: m) k = if e.1 = k then some e.2 else get? m k := by
  by_cases h : e.1 = k <;> simp [get?, h]

theorem get?_erase (m : Keyed κ α) (k l : κ) :
    get? (erase m k) l = if k = l then none else get? m l := by
  induction m with
  | nil => simp [erase]
  | cons e m ih =>
    have step : erase (e :: m) k = if e.1 = k then erase m k else e :: erase m k := by
      by_cases h : e.1 = k <;> simp [erase, h]
    rw [step]
    by_cases h : e.1 = k
    · rw [if_pos h, ih, get?_cons]
      by_cases hl : k = l
      · simp [hl]
      · have : e.1 ≠ l := fun he => hl (h ▸ he)
        simp [hl, this]
    · rw [if_neg h, get?_cons, get?_cons, ih]
      by_cases he : e.1 = l
      · have : k ≠ l := fun hk => h (he.trans hk.symm)
        simp [he, this]
      · simp [he]

theorem get?_erase_eq_some {m : Keyed κ α} {k l : κ} {a : α} :
    get? (erase m k) l = some a ↔ l ≠ k ∧ get? m l = some a := by
  rw [get?_erase]
  by_cases h : k = l
  · simp [h]
  · simp [h, Ne.symm h]

theorem get?_put (m : Keyed κ α) (k l : κ) (a : α) :
    get? (put m k a) l = if k = l then some a else get? m l := by
  simp only [put]
  rw [get?_cons, get?_erase]
  by_cases h : k = l <;> simp [h]

theorem mem_keys_erase {m : Keyed κ α} {k l : κ} :
    l ∈ keys (erase m k) ↔ l ∈ keys m ∧ l ≠ k := by
  simp only [keys, erase, List.mem_map, List.mem_filter, decide_not, Bool.not_eq_eq_eq_not,
    Bool.not_true, decide_eq_false_iff_not]
  constructor
  · rintro ⟨e, ⟨he, hk⟩, rfl⟩
    exact ⟨⟨e, he, rfl⟩, hk⟩
  · rintro ⟨⟨e, he, rfl⟩, hk⟩
    exact ⟨e, ⟨he, hk⟩, rfl⟩

theorem nodup_erase {m : Keyed κ α} (h : Nodup m) (k : κ) : Nodup (erase m k) :=
  List.Nodup.sublist ((List.filter_sublist).map _) h

theorem nodup_put {m : Keyed κ α} (h : Nodup m) (k : κ) (a : α) : Nodup (put m k a) := by
  simp only [Nodup, put, keys]
  rw [List.map_cons, List.nodup_cons]
  exact ⟨fun hm => (mem_keys_erase.1 hm).2 rfl, nodup_erase h k⟩

theorem mem_of_get?_eq_some {m : Keyed κ α} {k : κ} {a : α} (h : get? m k = some a) :
    (k, a) ∈ m := by
  induction m with
  | nil => simp at h
  | cons e m ih =>
    rw [get?_cons] at h
    by_cases he : e.1 = k
    · rw [if_pos he] at h
      have : (k, a) = e := Prod.ext he.symm (Option.some.inj h).symm
      rw [this]
      exact List.mem_cons_self
    · rw [if_neg he] at h
      exact List.mem_cons_of_mem _ (ih h)

theorem get?_eq_some_iff {m : Keyed κ α} (hm : Nodup m) {k : κ} {a : α} :
    get? m k = some a ↔ (k, a) ∈ m := by
  refine ⟨mem_of_get?_eq_some, fun h => ?_⟩
  induction m with
  | nil => simp at h
  | cons e m ih =>
    have hn : e.1 ∉ keys m ∧ Nodup m := List.nodup_cons.1 hm
    rw [get?_cons]
    rcases List.mem_cons.1 h with rfl | h
    · exact if_pos rfl
    · have he : e.1 ≠ k := fun he => hn.1 (he ▸ List.mem_map_of_mem h)
      rw [if_neg he]
      exact ih hn.2 h

theorem has_eq_isSome (m : Keyed κ α) (k : κ) : has m k = (get? m k).isSome := by
  induction m with
  | nil => rfl
  | cons e m ih =>
    rw [get?_cons]
    by_cases h : e.1 = k
    · simp [has, h]
    · have : has (e :: m) k = has m k := by simp [has, h]
      simp [this, ih, h]

end Keyed

end Roster
