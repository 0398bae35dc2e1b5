import Roster.Proofs.Cache.Upkeep

/-!
# What maintenance does to admitted entries

Waiting writes bring entries in, renew them or take them out, and entries that are admitted go from the
old end to make room. This module says once what each of these steps can do.

* `holds` says that an admitted entry is still under its key, and `evict_of_holds` what evicting it does.
* `spent_evictAll` says what evicting several of them takes off the account.
* `victims_gone` says which entries would have to go for another one, and what their weight and count are.
* `Applied` says all that a waiting write can do, and `applied_applyWrite` that it is all.
* `shrink_eq` says that keeping to the budget evicts entries from the old end.
-/

namespace Roster.Cache.Local

/-- The sum of a quantity over a list. -/
def totalOf {α : Type} (f : α → Nat) : List α → Nat
  | [] => 0
  | a :: as => f a + totalOf f as

theorem totalOf_append {α : Type} (f : α → Nat) (as bs : List α) :
    totalOf f (as ++ bs) = totalOf f as + totalOf f bs := by
  induction as with
  | nil => simp [totalOf]
  | cons a as ih => simp only [List.cons_append, totalOf, ih]; omega

theorem totalOf_perm {α : Type} (f : α → Nat) {as bs : List α} (h : as.Perm bs) :
    totalOf f as = totalOf f bs := by
  induction h with
  | nil => rfl
  | cons a _ ih => simp only [totalOf, ih]
  | swap a b as => simp only [totalOf]; omega
  | trans _ _ ih ih' => exact ih.trans ih'

theorem totalOf_congr {α : Type} {f g : α → Nat} {as : List α} (h : ∀ a ∈ as, f a = g a) :
    totalOf f as = totalOf g as := by
  induction as with
  | nil => rfl
  | cons a as ih =>
    simp only [totalOf]
    rw [h a List.mem_cons_self, ih fun b hb => h b (List.mem_cons_of_mem a hb)]

theorem totalOf_map {α β : Type} (f : β → Nat) (g : α → β) (as : List α) :
    totalOf f (as.map g) = totalOf (fun a => f (g a)) as := by
  induction as with
  | nil => rfl
  | cons a as ih => simp only [List.map_cons, totalOf, ih]

theorem le_totalOf {α : Type} (f : α → Nat) {as : List α} {a : α} (h : a ∈ as) : f a ≤ totalOf f as := by
  induction as with
  | nil => cases h
  | cons b as ih =>
    simp only [totalOf]
    rcases List.mem_cons.1 h with rfl | h
    · omega
    · have := ih h
      omega

/-! ### Admitted entries -/

/-- The entry is still under its key. -/
def holds (c : Local) (r : Resident) : Bool :=
  (Keyed.get? c.entries r.key).any fun e => e.life = r.life

theorem holds_iff {c : Local} {r : Resident} :
    c.holds r = true ↔ ∃ e, Keyed.get? c.entries r.key = some e ∧ e.life = r.life := by
  simp [holds, Option.any_eq_true]

theorem isResident_iff {c : Local} {life : Nat} :
    c.isResident life = true ↔ ∃ r ∈ c.residents, r.life = life := by
  simp [isResident]

theorem isResident_enter {c : Local} {key : String} {life cost other : Nat} :
    (c.enter key life cost).isResident other = true ↔ c.isResident other = true ∨ life = other := by
  simp [isResident, enter]

theorem isResident_leave {c : Local} {life cost other : Nat} :
    (c.leave life cost).isResident other = true ↔ c.isResident other = true ∧ other ≠ life := by
  rw [isResident_iff, isResident_iff]
  constructor
  · rintro ⟨r, hr, rfl⟩
    obtain ⟨hr, hne⟩ := List.mem_filter.1 hr
    exact ⟨⟨r, hr, rfl⟩, of_decide_eq_true hne⟩
  · rintro ⟨⟨r, hr, rfl⟩, hne⟩
    exact ⟨r, List.mem_filter.2 ⟨hr, decide_eq_true hne⟩, rfl⟩

theorem evict_of_holds {c : Local} {r : Resident} {e : Entry}
    (he : Keyed.get? c.entries r.key = some e) (hlife : e.life = r.life) :
    c.evict r = { c with entries := Keyed.erase c.entries r.key }.leave r.life e.cost := by
  simp only [evict, he]
  rw [if_pos hlife]

theorem evict_of_not_holds {c : Local} {r : Resident} (h : c.holds r = false) : c.evict r = c := by
  simp only [evict]
  split
  · rename_i e he
    rw [if_neg fun hlife => ?_]
    exact Bool.eq_false_iff.1 h (holds_iff.2 ⟨e, he, hlife⟩)
  · rfl

/-- Evicting one entry leaves those with another life where they are. -/
theorem get?_evict {c : Local} {r : Resident} {key : String} {e : Entry}
    (he : Keyed.get? c.entries key = some e) (hlife : e.life ≠ r.life) :
    Keyed.get? (c.evict r).entries key = some e := by
  by_cases h : c.holds r = true
  · obtain ⟨e', he', hlife'⟩ := holds_iff.1 h
    rw [evict_of_holds he' hlife']
    refine Keyed.get?_erase_eq_some.2 ⟨fun hkey => ?_, he⟩
    rw [← hkey, he] at he'
    exact hlife (Option.some.inj he' ▸ hlife')
  · rw [evict_of_not_holds (Bool.eq_false_iff.2 h)]
    exact he

theorem mem_residents_evict {c : Local} {r x : Resident} (hx : x ∈ (c.evict r).residents) :
    x ∈ c.residents ∧ (c.holds r = true → x.life ≠ r.life) := by
  by_cases h : c.holds r = true
  · obtain ⟨e, he, hlife⟩ := holds_iff.1 h
    rw [evict_of_holds he hlife] at hx
    obtain ⟨hmem, hne⟩ := List.mem_filter.1 hx
    exact ⟨hmem, fun _ => of_decide_eq_true hne⟩
  · rw [evict_of_not_holds (Bool.eq_false_iff.2 h)] at hx
    exact ⟨hx, fun h' => absurd h' h⟩

theorem mem_residents_evict_of_ne {c : Local} {r x : Resident} (hx : x ∈ c.residents)
    (hne : x.life ≠ r.life) : x ∈ (c.evict r).residents := by
  by_cases h : c.holds r = true
  · obtain ⟨e, he, hlife⟩ := holds_iff.1 h
    rw [evict_of_holds he hlife]
    exact List.mem_filter.2 ⟨hx, decide_eq_true hne⟩
  · rwa [evict_of_not_holds (Bool.eq_false_iff.2 h)]

theorem Shrinks.holds_before {c d : Local} (h : Shrinks c d) {r : Resident} (hr : d.holds r = true) :
    c.holds r = true := by
  obtain ⟨e, he, hlife⟩ := holds_iff.1 hr
  exact holds_iff.2 ⟨e, h.entry_before he, hlife⟩

theorem holds_evict_self (c : Local) (r : Resident) : (c.evict r).holds r = false := by
  by_cases h : c.holds r = true
  · obtain ⟨e, he, hlife⟩ := holds_iff.1 h
    rw [evict_of_holds he hlife]
    refine Bool.eq_false_iff.2 fun hr => ?_
    obtain ⟨e', he', -⟩ := holds_iff.1 hr
    exact (Keyed.get?_erase_eq_some.1 he').1 rfl
  · rw [evict_of_not_holds (Bool.eq_false_iff.2 h)]
    exact Bool.eq_false_iff.2 h

theorem holds_evictAll {c : Local} {gone : List Resident} {r : Resident} (hr : r ∈ gone) :
    (gone.foldl evict c).holds r = false := by
  induction gone generalizing c with
  | nil => cases hr
  | cons x gone ih =>
    rcases List.mem_cons.1 hr with rfl | hr
    · refine Bool.eq_false_iff.2 fun hholds => Bool.eq_false_iff.1 (holds_evict_self c r) ?_
      exact (shrinks_foldl shrinks_evict gone (c.evict r)).holds_before hholds
    · exact ih hr

/-- What is evicted for an entry leaves the entry where it is. -/
theorem get?_evictAll {c : Local} {key : String} {e : Entry} (gone : List Resident)
    (hfound : Keyed.get? c.entries key = some e) (hgone : ∀ r ∈ gone, e.life ≠ r.life) :
    Keyed.get? (gone.foldl evict c).entries key = some e := by
  induction gone generalizing c with
  | nil => exact hfound
  | cons r gone ih =>
    exact ih (get?_evict hfound (hgone r List.mem_cons_self))
      fun x hx => hgone x (List.mem_cons_of_mem r hx)

theorem mem_residents_evictAll {c : Local} {gone : List Resident} {x : Resident}
    (hx : x ∈ (gone.foldl evict c).residents) : x ∈ c.residents := by
  induction gone generalizing c with
  | nil => exact hx
  | cons r gone ih => exact (mem_residents_evict (ih hx)).1

theorem mem_residents_evictAll_of_ne {c : Local} {gone : List Resident} {x : Resident}
    (hx : x ∈ c.residents) (hne : ∀ r ∈ gone, x.life ≠ r.life) :
    x ∈ (gone.foldl evict c).residents := by
  induction gone generalizing c with
  | nil => exact hx
  | cons r gone ih =>
    exact ih (mem_residents_evict_of_ne hx (hne r List.mem_cons_self))
      fun y hy => hne y (List.mem_cons_of_mem r hy)

theorem isResident_of_evictAll {c : Local} {gone : List Resident} {life : Nat}
    (h : (gone.foldl evict c).isResident life = true) : c.isResident life = true := by
  obtain ⟨x, hx, hlife⟩ := isResident_iff.1 h
  exact isResident_iff.2 ⟨x, mem_residents_evictAll hx, hlife⟩

theorem isResident_evictAll {c : Local} (gone : List Resident) {life : Nat} (h : c.isResident life = false) :
    (gone.foldl evict c).isResident life = false :=
  Bool.eq_false_iff.2 fun hresident => Bool.eq_false_iff.1 h (isResident_of_evictAll hresident)

theorem isResident_evictAll_of_ne {c : Local} {gone : List Resident} {life : Nat}
    (h : c.isResident life = true) (hne : ∀ r ∈ gone, life ≠ r.life) :
    (gone.foldl evict c).isResident life = true := by
  obtain ⟨x, hx, rfl⟩ := isResident_iff.1 h
  exact isResident_iff.2 ⟨x, mem_residents_evictAll_of_ne hx hne, rfl⟩

/-- Those who go for an entry are not the entry itself. -/
theorem life_ne_of_gone {c : Local} {e : Entry} {gone : List Resident} (hold : gone.Sublist c.residents)
    (hresident : c.isResident e.life = false) : ∀ r ∈ gone, e.life ≠ r.life := by
  intro r hr hlife
  exact Bool.eq_false_iff.1 hresident (isResident_iff.2 ⟨r, hold.mem hr, hlife.symm⟩)

/-- What the entry of an admitted entry costs, if it is still there. -/
def costOf (c : Local) (r : Resident) : Nat := ((Keyed.get? c.entries r.key).map (·.cost)).getD 0

/-- Evicting admitted entries takes what they cost off the account. -/
theorem spent_evictAll {c : Local} {gone : List Resident} (hapart : (gone.map (·.life)).Nodup)
    (hthere : ∀ r ∈ gone, c.holds r = true) :
    (gone.foldl evict c).spent = c.spent - totalOf c.costOf gone := by
  induction gone generalizing c with
  | nil => rfl
  | cons r gone ih =>
    obtain ⟨hfirst, hrest⟩ := List.nodup_cons.1 hapart
    have hkept : ∀ x ∈ gone, ∃ e, Keyed.get? c.entries x.key = some e ∧ e.life = x.life ∧
        Keyed.get? (c.evict r).entries x.key = some e := by
      intro x hx
      obtain ⟨e, he, hlife⟩ := holds_iff.1 (hthere x (List.mem_cons_of_mem r hx))
      refine ⟨e, he, hlife, get?_evict he fun heq => hfirst ?_⟩
      exact List.mem_map.2 ⟨x, hx, hlife.symm.trans heq⟩
    have hcosts : totalOf (c.evict r).costOf gone = totalOf c.costOf gone := by
      refine totalOf_congr fun x hx => ?_
      obtain ⟨e, he, -, he'⟩ := hkept x hx
      rw [costOf, costOf, he, he']
    have hspent : (c.evict r).spent = c.spent - c.costOf r := by
      obtain ⟨e, he, hlife⟩ := holds_iff.1 (hthere r List.mem_cons_self)
      rw [evict_of_holds he hlife, costOf, he]
      rfl
    rw [List.foldl_cons, ih hrest fun x hx => ?_, hcosts, hspent, totalOf, Nat.sub_sub]
    obtain ⟨e, -, hlife, he'⟩ := hkept x hx
    exact holds_iff.2 ⟨e, he', hlife⟩

theorem victims_cons (c : Local) (cost own : Nat) (v : Victims) (r : Resident) (rest : List Resident) :
    c.victims cost own v (r :: rest) =
      if v.weight < cost && v.count ≤ own then
        c.victims cost own (if c.holds r = true then
          ⟨v.gone ++ [r], v.weight + c.costOf r, v.count + c.count r.key⟩ else v) rest
      else v := by
  simp only [victims]
  split
  · split
    · rename_i e he
      by_cases h : e.life = r.life <;> simp [holds, costOf, he, h]
    · rename_i he
      simp [holds, he]
  · rfl

/-- Those that would have to go are admitted entries that are still under their keys; weight and count
are theirs. -/
theorem victims_gone (c : Local) (cost own : Nat) (v : Victims) (residents : List Resident) :
    ∃ more, more.Sublist residents ∧ (∀ r ∈ more, c.holds r = true) ∧
      c.victims cost own v residents = ⟨v.gone ++ more, v.weight + totalOf c.costOf more,
        v.count + totalOf (fun r => c.count r.key) more⟩ := by
  induction residents generalizing v with
  | nil => exact ⟨[], .slnil, by simp, by simp [victims, totalOf]⟩
  | cons r residents ih =>
    rw [victims_cons]
    split
    · by_cases h : c.holds r = true
      · rw [if_pos h]
        obtain ⟨more, hsub, hmore, heq⟩ :=
          ih ⟨v.gone ++ [r], v.weight + c.costOf r, v.count + c.count r.key⟩
        refine ⟨r :: more, hsub.cons_cons r, List.forall_mem_cons.2 ⟨h, hmore⟩, ?_⟩
        rw [heq]
        simp only [totalOf, List.append_assoc, List.singleton_append, Nat.add_assoc]
      · rw [if_neg h]
        obtain ⟨more, hsub, hmore, heq⟩ := ih v
        exact ⟨more, hsub.cons r, hmore, heq⟩
    · exact ⟨[], List.nil_sublist _, by simp, by simp [totalOf]⟩

/-! ### What a waiting write does -/

/-- All that taking account of a waiting write can do. -/
inductive Applied (c : Local) : LoggedWrite → Local → Prop
  /-- The removed entry was admitted and is taken out. -/
  | left {life cost : Nat} (resident : c.isResident life = true) :
      Applied c (.removal life cost) (c.leave life cost)
  /-- The removed entry was not admitted. -/
  | gone {life cost : Nat} (resident : c.isResident life = false) :
      Applied c (.removal life cost) c
  /-- The entry that was written has been removed since. -/
  | missed {key : String} {life write oldCost cost : Nat}
      (other : ∀ e, Keyed.get? c.entries key = some e → e.life ≠ life) :
      Applied c (.put key life write oldCost cost) c
  /-- The entry is admitted already. -/
  | renewed {key : String} {e : Entry} {write oldCost cost : Nat}
      (found : Keyed.get? c.entries key = some e) (resident : c.isResident e.life = true) :
      Applied c (.put key e.life write oldCost cost)
        ({ c with spent := c.spent - oldCost + cost }.renew key e.life)
  /-- There is room for the entry. -/
  | entered {key : String} {e : Entry} {write oldCost cost : Nat}
      (found : Keyed.get? c.entries key = some e) (resident : c.isResident e.life = false)
      (room : c.spent + cost ≤ c.maxCost) :
      Applied c (.put key e.life write oldCost cost) (c.enter key e.life cost)
  /-- The entry takes the place of others that are looked up less often. -/
  | displaced {key : String} {e : Entry} {write oldCost cost : Nat} {gone : List Resident}
      (found : Keyed.get? c.entries key = some e) (resident : c.isResident e.life = false)
      (fits : cost ≤ c.maxCost) (old : gone.Sublist c.residents)
      (there : ∀ r ∈ gone, c.holds r = true) (room : cost ≤ totalOf c.costOf gone)
      (more : totalOf (fun r => c.count r.key) gone < c.count key) :
      Applied c (.put key e.life write oldCost cost) ((gone.foldl evict c).enter key e.life cost)
  /-- The entry is not admitted. -/
  | refused {key : String} {e : Entry} {write oldCost cost : Nat}
      (found : Keyed.get? c.entries key = some e) (resident : c.isResident e.life = false) :
      Applied c (.put key e.life write oldCost cost) (c.refuse key write)

theorem applied_applyWrite (c : Local) (w : LoggedWrite) : Applied c w (c.applyWrite w) := by
  cases w with
  | removal life cost =>
    simp only [applyWrite]
    split
    · rename_i h
      exact .left h
    · rename_i h
      exact .gone (Bool.eq_false_iff.2 h)
  | put key life write oldCost cost =>
    simp only [applyWrite]
    cases hfound : Keyed.get? c.entries key with
    | none => exact .missed fun e he => by rw [hfound] at he; cases he
    | some e =>
      by_cases hlife : e.life = life
      · subst hlife
        simp only [ne_eq, not_true_eq_false, if_false]
        split
        · rename_i hresident
          exact .renewed hfound hresident
        · rename_i hresident
          have hresident := Bool.eq_false_iff.2 hresident
          unfold consider
          split
          · rename_i hroom
            exact .entered hfound hresident hroom
          · split
            · exact .refused hfound hresident
            · rename_i hfits
              obtain ⟨gone, hold, hthere, hvictims⟩ :=
                victims_gone c cost (c.count key) ⟨[], 0, 0⟩ c.residents
              simp only [hvictims, List.nil_append, Nat.zero_add, Bool.and_eq_true, decide_eq_true_eq]
              split
              · rename_i hbetter
                exact .displaced hfound hresident (Nat.le_of_not_lt hfits) hold hthere hbetter.1 hbetter.2
              · exact .refused hfound hresident
      · simp only [ne_eq, hlife, not_false_eq_true, if_true]
        exact .missed fun e' he' => by
          rw [hfound] at he'
          exact Option.some.inj he' ▸ hlife

/-! ### Keeping to the budget -/

/-- Keeping to the budget evicts entries from the old end. -/
theorem shrink_eq (excess : Nat) (c : Local) (residents : List Resident) :
    ∃ gone : List Resident, gone.Sublist residents ∧ shrink excess c residents = gone.foldl evict c := by
  induction residents generalizing excess c with
  | nil => exact ⟨[], .slnil, rfl⟩
  | cons r residents ih =>
    simp only [shrink]
    split
    · exact ⟨[], List.nil_sublist _, rfl⟩
    · obtain ⟨gone, hgone, heq⟩ := ih (excess - c.costOf r) (c.evict r)
      exact ⟨r :: gone, hgone.cons_cons r, heq⟩

end Roster.Cache.Local
