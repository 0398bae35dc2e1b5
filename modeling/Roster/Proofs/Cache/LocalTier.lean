import Roster.Cache.Local

/-!
# What the local tier may lose

Maintenance decides who stays in the local tier, but it never makes a value up and never brings one
back: entries only go.

* `Local.Shrinks` says that a tier came about from another in this way, and `shrinks_maintain` that
  maintenance does nothing else.
* `Local.find?` is what a lookup finds. `get_fst` says that a lookup answers it, and `find?_get`,
  `find?_set` and `find?_delete` what can be found after each operation.
-/

namespace Roster.Cache.Local

/-! ### Maintenance -/

/-- The budget is the same, and every entry was there before. -/
structure Shrinks (c d : Local) : Prop where
  maxCost_eq : d.maxCost = c.maxCost
  entry_before {key : String} {e : Entry} :
    Keyed.get? d.entries key = some e → Keyed.get? c.entries key = some e

theorem Shrinks.refl (c : Local) : Shrinks c c := ⟨rfl, fun h => h⟩

theorem Shrinks.trans {c d e : Local} (h : Shrinks c d) (h' : Shrinks d e) : Shrinks c e :=
  ⟨h'.maxCost_eq.trans h.maxCost_eq, fun he => h.entry_before (h'.entry_before he)⟩

/-- A tier with the same budget and entries shrinks to itself. -/
theorem shrinks_of_eq {c d : Local} (hm : d.maxCost = c.maxCost) (he : d.entries = c.entries) :
    Shrinks c d := ⟨hm, fun h => by rw [← he]; exact h⟩

/-- Taking a key out loses entries only. -/
theorem shrinks_of_erase {c d : Local} {key : String} (hm : d.maxCost = c.maxCost)
    (he : d.entries = Keyed.erase c.entries key) : Shrinks c d := by
  refine ⟨hm, fun {k e} h => ?_⟩
  rw [he, Keyed.get?_erase] at h
  split at h
  · cases h
  · exact h

/-- What shrinks a tier step by step shrinks it over a whole list. -/
theorem shrinks_foldl {α : Type} {step : Local → α → Local}
    (hstep : ∀ c a, Shrinks c (step c a)) (as : List α) (c : Local) :
    Shrinks c (as.foldl step c) := by
  induction as generalizing c with
  | nil => exact Shrinks.refl c
  | cons a as ih => exact (hstep c a).trans (ih _)

theorem shrinks_applyRead (c : Local) (r : LoggedRead) : Shrinks c (c.applyRead r) := by
  obtain ⟨d, hd⟩ : ∃ d, d = if c.counting then
      { c with counts := Keyed.put c.counts r.key (min greatestCount (c.count r.key + 1)) }
    else c := ⟨_, rfl⟩
  have hcounted : Shrinks c d := by
    rw [hd]
    split
    · exact shrinks_of_eq rfl rfl
    · exact Shrinks.refl c
  simp only [applyRead]
  rw [← hd]
  cases r.found with
  | none => exact hcounted
  | some life =>
    show Shrinks c (if d.isResident life then d.renew r.key life else d)
    split
    · exact hcounted.trans (shrinks_of_eq rfl rfl)
    · exact hcounted

theorem shrinks_evict (c : Local) (r : Resident) : Shrinks c (c.evict r) := by
  simp only [evict]
  split
  · split
    · exact shrinks_of_erase rfl rfl
    · exact Shrinks.refl c
  · exact Shrinks.refl c

theorem shrinks_refuse (c : Local) (key : String) (write : Nat) :
    Shrinks c (c.refuse key write) := by
  simp only [refuse]
  split
  · split
    · exact shrinks_of_erase rfl rfl
    · exact Shrinks.refl c
  · exact Shrinks.refl c

theorem shrinks_consider (c : Local) (key : String) (life write cost : Nat) :
    Shrinks c (c.consider key life write cost) := by
  unfold consider
  split
  · exact shrinks_of_eq rfl rfl
  · split
    · exact shrinks_refuse c key write
    · dsimp only
      split
      · exact (shrinks_foldl shrinks_evict _ c).trans (shrinks_of_eq rfl rfl)
      · exact shrinks_refuse c key write

theorem shrinks_applyWrite (c : Local) (w : LoggedWrite) : Shrinks c (c.applyWrite w) := by
  cases w with
  | removal life cost =>
    simp only [applyWrite]
    split
    · exact shrinks_of_eq rfl rfl
    · exact Shrinks.refl c
  | put key life write oldCost cost =>
    simp only [applyWrite]
    split
    · exact Shrinks.refl c
    · split
      · exact Shrinks.refl c
      · split
        · exact shrinks_of_eq rfl rfl
        · exact shrinks_consider c key life write cost

theorem shrinks_shrink (excess : Nat) (residents : List Resident) (c : Local) :
    Shrinks c (shrink excess c residents) := by
  induction residents generalizing excess c with
  | nil => exact Shrinks.refl c
  | cons r residents ih =>
    simp only [shrink]
    split
    · exact Shrinks.refl c
    · exact (shrinks_evict c r).trans (ih _ _)

theorem shrinks_startCounting (c : Local) : Shrinks c c.startCounting := by
  simp only [startCounting]
  split
  · exact shrinks_of_eq rfl rfl
  · exact Shrinks.refl c

theorem shrinks_keepBudget (c : Local) : Shrinks c c.keepBudget := shrinks_shrink _ _ c

/-- Maintenance only loses entries. -/
theorem shrinks_maintain (c : Local) : Shrinks c c.maintain := by
  simp only [maintain]
  split
  · exact Shrinks.refl c
  · obtain ⟨d, hd⟩ : ∃ d, d = c.reads.foldl applyRead { c with reads := [] } := ⟨_, rfl⟩
    have hreads : Shrinks c d := by
      have hcleared : Shrinks c { c with reads := [] } := shrinks_of_eq rfl rfl
      rw [hd]
      exact hcleared.trans (shrinks_foldl shrinks_applyRead _ _)
    have hcleared : Shrinks d { d with writes := [] } := shrinks_of_eq rfl rfl
    have hwrites := shrinks_foldl shrinks_applyWrite c.writes { d with writes := [] }
    simp only [← hd]
    exact hreads.trans (hcleared.trans (hwrites.trans
      ((shrinks_startCounting _).trans (shrinks_keepBudget _))))

theorem shrinks_logWrite (c : Local) (w : LoggedWrite) : Shrinks c (c.logWrite w) := by
  simp only [logWrite]
  split
  · exact (shrinks_maintain c).trans (shrinks_of_eq rfl rfl)
  · exact shrinks_of_eq rfl rfl

theorem shrinks_logRead (c : Local) (r : LoggedRead) : Shrinks c (c.logRead r) := by
  simp only [logRead]
  split
  · exact (shrinks_maintain c).trans (shrinks_of_eq rfl rfl)
  · exact shrinks_of_eq rfl rfl

/-! ### Operations -/

/-- What a lookup finds. A tier without a budget finds nothing. -/
def find? (c : Local) (key : String) : Option ByteArray :=
  if c.maxCost = 0 then none else (Keyed.get? c.entries key).map (·.value)

/-- A tier without entries finds nothing. -/
theorem find?_of_no_entries {c : Local} (h : c.entries = []) (key : String) : c.find? key = none := by
  simp only [find?]
  rw [h, Keyed.get?_nil, Option.map_none, ite_self]

theorem Shrinks.find?_before {c d : Local} (h : Shrinks c d) {key : String} {value : ByteArray}
    (hf : d.find? key = some value) : c.find? key = some value := by
  simp only [find?] at hf ⊢
  rw [h.maxCost_eq] at hf
  split at hf
  · cases hf
  · rename_i hm
    obtain ⟨e, he, hv⟩ := Option.map_eq_some_iff.1 hf
    rw [if_neg hm, h.entry_before he, Option.map_some, hv]

theorem get_fst (c : Local) (key : String) : (c.get key).1 = c.find? key := by
  simp only [get, find?]
  split
  · rfl
  · split <;> rename_i h <;> rw [h] <;> rfl

theorem shrinks_get (c : Local) (key : String) : Shrinks c (c.get key).2 := by
  simp only [get]
  split
  · exact shrinks_of_eq rfl rfl
  · split
    · rename_i e _
      exact (shrinks_logRead c ⟨key, some e.life⟩).trans (shrinks_of_eq rfl rfl)
    · exact (shrinks_logRead c ⟨key, none⟩).trans (shrinks_of_eq rfl rfl)

/-- A lookup brings nothing in. -/
theorem find?_get {c : Local} {key other : String} {value : ByteArray}
    (h : (c.get key).2.find? other = some value) : c.find? other = some value :=
  (shrinks_get c key).find?_before h

/-- A write puts an entry under the key and logs it. -/
theorem write_eq {c : Local} (h : c.maxCost ≠ 0) (key : String) (value : ByteArray) (cost : Nat) :
    ∃ (d : Local) (e : Entry) (w : LoggedWrite), c.write key value cost = d.logWrite w ∧
      d.maxCost = c.maxCost ∧
      d.entries = Keyed.put c.entries key e ∧ e.value = value := by
  unfold write
  rw [if_neg h]
  dsimp only
  split
  · exact ⟨_, _, _, rfl, rfl, rfl, rfl⟩
  · exact ⟨_, _, _, rfl, rfl, rfl, rfl⟩

/-- After a write a key finds the new value or nothing, and every other key at most what it found
before. -/
theorem find?_write {c : Local} {key other : String} {value found : ByteArray} {cost : Nat}
    (h : (c.write key value cost).find? other = some found) :
    if key = other then found = value else c.find? other = some found := by
  by_cases hm : c.maxCost = 0
  · simp only [write, find?] at h
    rw [if_pos hm, if_pos hm] at h
    cases h
  · obtain ⟨d, e, w, hwrite, hd, hentries, hvalue⟩ := write_eq hm key value cost
    rw [hwrite] at h
    have hfound := (shrinks_logWrite d w).find?_before h
    simp only [find?] at hfound ⊢
    rw [hd, if_neg hm, hentries, Keyed.get?_put] at hfound
    rw [if_neg hm]
    by_cases hkey : key = other
    · rw [if_pos hkey] at hfound ⊢
      have hfound' : e.value = found := Option.some.inj hfound
      rw [← hfound', hvalue]
    · rwa [if_neg hkey] at hfound ⊢

/-- Setting a value is writing it, and perhaps maintenance. -/
theorem shrinks_set (c : Local) (key : String) (value : ByteArray) (cost : Nat) :
    Shrinks (c.write key value cost) (c.set key value cost) := by
  have hcount : Shrinks (c.write key value cost)
      { c.write key value cost with written := (c.write key value cost).written + 1 } :=
    shrinks_of_eq rfl rfl
  unfold set
  simp only
  split
  · exact hcount.trans (shrinks_maintain _)
  · exact hcount

/-- After setting a value its key finds that value or nothing, and every other key at most what it
found before. -/
theorem find?_set {c : Local} {key other : String} {value found : ByteArray} {cost : Nat}
    (h : (c.set key value cost).find? other = some found) :
    if key = other then found = value else c.find? other = some found :=
  find?_write ((shrinks_set c key value cost).find?_before h)

/-- A removal takes the entry under the key out, and perhaps there is maintenance. -/
theorem shrinks_delete (c : Local) (key : String) :
    Shrinks { c with entries := Keyed.erase c.entries key } (c.delete key) := by
  simp only [delete]
  cases he : Keyed.get? c.entries key with
  | none =>
    refine ⟨rfl, fun {other e} h => ?_⟩
    rw [Keyed.get?_erase, if_neg ?_]
    · exact h
    · rintro rfl
      rw [he] at h
      cases h
  | some e => exact shrinks_logWrite _ _

/-- After a removal its key finds nothing, and every other key at most what it found before. -/
theorem find?_delete {c : Local} {key other : String} {value : ByteArray}
    (h : (c.delete key).find? other = some value) : key ≠ other ∧ c.find? other = some value := by
  have hfound := (shrinks_delete c key).find?_before h
  simp only [find?, Keyed.get?_erase] at hfound ⊢
  by_cases hm : c.maxCost = 0
  · rw [if_pos hm] at hfound
    cases hfound
  · rw [if_neg hm] at hfound ⊢
    by_cases hk : key = other
    · rw [if_pos hk] at hfound
      cases hfound
    · rw [if_neg hk] at hfound
      exact ⟨hk, hfound⟩

end Roster.Cache.Local
