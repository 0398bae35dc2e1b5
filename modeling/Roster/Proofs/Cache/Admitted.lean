import Mathlib.Data.List.Nodup
import Roster.Proofs.Cache.Applied

/-!
# Who is admitted to the local tier

Entries, admitted entries and what waits are kept in separate places of the tier and are brought together
by maintenance only. They always fit together: what is found is admitted or waits to be, and what is
admitted is found or waits to be taken out.

* `Placed` is how the parts of the tier fit together; every step of maintenance keeps it, and
  `kept_afterCalls` says that every run of calls does.
* `shrink_within` says that the account is brought back into the budget.
* `Placed.residents_keys` says that where no writes wait the admitted entries are exactly what is found.
-/

namespace Roster.Cache.Local

/-! ### How the parts fit together -/

/-- Entries, admitted entries and what waits fit together: a life belongs to one key only, which `keyOf`
names, what is found is admitted or waits to be, and what is admitted is found or waits to be taken
out. -/
structure Placed (keyOf : Nat → String) (c : Local) (rs : List LoggedRead) (ws : List LoggedWrite) :
    Prop where
  keys_apart : Keyed.Nodup c.entries
  lives_apart : (c.residents.map (·.life)).Nodup
  entry_life {key : String} {e : Entry} :
    Keyed.get? c.entries key = some e → keyOf e.life = key ∧ e.life < c.lives
  resident_life {r : Resident} : r ∈ c.residents → keyOf r.life = r.key ∧ r.life < c.lives
  read_life {r : LoggedRead} {life : Nat} :
    r ∈ rs → r.found = some life → keyOf life = r.key ∧ life < c.lives
  put_life {key : String} {life write oldCost cost : Nat} :
    .put key life write oldCost cost ∈ ws → keyOf life = key ∧ life < c.lives
  removal_life {life cost : Nat} : .removal life cost ∈ ws → life < c.lives ∧
    ∀ {key : String} {e : Entry}, Keyed.get? c.entries key = some e → e.life ≠ life
  resident_there {r : Resident} : r ∈ c.residents →
    c.holds r = true ∨ ∃ cost, .removal r.life cost ∈ ws
  entry_waits {key : String} {e : Entry} : Keyed.get? c.entries key = some e →
    c.isResident e.life = true ∨ ∃ oldCost, .put key e.life e.write oldCost e.cost ∈ ws
  idle : c.maxCost = 0 → c.entries = [] ∧ ws = []

section Placed

variable {keyOf : Nat → String} {c d : Local} {rs rs' : List LoggedRead} {ws : List LoggedWrite}

theorem placed_ofSizing (sizing : Sizing) : Placed keyOf (ofSizing sizing) [] [] where
  keys_apart := .nil
  lives_apart := .nil
  entry_life h := nomatch h
  resident_life h := nomatch h
  read_life h := nomatch h
  put_life h := nomatch h
  removal_life h := nomatch h
  resident_there h := nomatch h
  entry_waits h := nomatch h
  idle _ := ⟨rfl, rfl⟩

theorem holds_congr (h : d.entries = c.entries) (r : Resident) : d.holds r = c.holds r := by
  simp only [holds, h]

theorem isResident_perm (h : d.residents.Perm c.residents) (life : Nat) :
    d.isResident life = c.isResident life := by
  rw [Bool.eq_iff_iff, isResident_iff, isResident_iff]
  simp only [h.mem_iff]

/-- Neither the order of the admitted entries nor the account matters. -/
theorem Placed.of_perm (h : Placed keyOf c rs ws) (hentries : d.entries = c.entries)
    (hresidents : d.residents.Perm c.residents) (hlives : d.lives = c.lives)
    (hmax : d.maxCost = c.maxCost) (hrs : ∀ r ∈ rs', r ∈ rs) : Placed keyOf d rs' ws where
  keys_apart := hentries ▸ h.keys_apart
  lives_apart := (hresidents.map _).nodup_iff.2 h.lives_apart
  entry_life he := by
    rw [hentries] at he
    rw [hlives]
    exact h.entry_life he
  resident_life hr := hlives ▸ h.resident_life (hresidents.mem_iff.1 hr)
  read_life hr hfound := hlives ▸ h.read_life (hrs _ hr) hfound
  put_life hw := hlives ▸ h.put_life hw
  removal_life hw := by
    rw [hlives, hentries]
    exact h.removal_life hw
  resident_there hr := by
    rw [holds_congr hentries]
    exact h.resident_there (hresidents.mem_iff.1 hr)
  entry_waits he := by
    rw [hentries] at he
    rw [isResident_perm hresidents]
    exact h.entry_waits he
  idle hm := by
    rw [hentries]
    exact h.idle (hmax ▸ hm)

/-- Under the key of an admitted entry's life stands the entry itself. -/
theorem Placed.mem_residents (h : Placed keyOf c rs ws) {key : String} {life : Nat}
    (hkey : keyOf life = key) (hresident : c.isResident life = true) : ⟨key, life⟩ ∈ c.residents := by
  obtain ⟨r, hr, rfl⟩ := isResident_iff.1 hresident
  rw [← hkey, (h.resident_life hr).1]
  exact hr

theorem filter_life_perm {residents : List Resident} (h : (residents.map (·.life)).Nodup)
    {r : Resident} (hr : r ∈ residents) :
    residents.Perm (r :: residents.filter (·.life ≠ r.life)) := by
  induction residents with
  | nil => cases hr
  | cons x residents ih =>
    obtain ⟨hx, hrest⟩ := List.nodup_cons.1 h
    have hne : ∀ y ∈ residents, y.life ≠ x.life := fun y hy hlife =>
      hx (List.mem_map.2 ⟨y, hy, hlife⟩)
    rcases List.mem_cons.1 hr with rfl | hr
    · rw [List.filter_cons_of_neg (by simp), List.filter_eq_self.2 fun y hy => decide_eq_true (hne y hy)]
    · rw [List.filter_cons_of_pos (by simpa using (hne r hr).symm)]
      exact ((ih hrest hr).cons x).trans (.swap _ _ _)

/-- Moving an admitted entry to the young end only changes the order. -/
theorem Placed.renew_perm (h : Placed keyOf c rs ws) {key : String} {life : Nat}
    (hkey : keyOf life = key) (hresident : c.isResident life = true) :
    (c.renew key life).residents.Perm c.residents :=
  (List.perm_append_singleton _ _).trans
    (filter_life_perm h.lives_apart (h.mem_residents hkey hresident)).symm

theorem Placed.applyRead_perm {r : LoggedRead} (h : Placed keyOf c (r :: rs) ws) :
    (c.applyRead r).residents.Perm c.residents := by
  rcases residents_applyRead c r with heq | ⟨life, hfound, hresident, heq⟩
  · rw [heq]
  · rw [heq]
    exact h.renew_perm (h.read_life List.mem_cons_self hfound).1 hresident

theorem Placed.applyRead {r : LoggedRead} (h : Placed keyOf c (r :: rs) ws) :
    Placed keyOf (c.applyRead r) rs ws :=
  h.of_perm (by rw [applyRead_eq]) h.applyRead_perm (by rw [applyRead_eq]) (by rw [applyRead_eq])
    fun _ hx => List.mem_cons_of_mem r hx

theorem Placed.applyReads {reads : List LoggedRead} (h : Placed keyOf c (reads ++ rs) ws) :
    Placed keyOf (reads.foldl Local.applyRead c) rs ws ∧
      (reads.foldl Local.applyRead c).residents.Perm c.residents := by
  induction reads generalizing c with
  | nil => exact ⟨h, .refl _⟩
  | cons r reads ih =>
    obtain ⟨hplaced, hperm⟩ := ih h.applyRead
    exact ⟨hplaced, hperm.trans h.applyRead_perm⟩

/-- Counting waiting reads only changes the order of the admitted entries. -/
theorem Placed.counted (h : Placed keyOf c (c.reads ++ rs) ws) :
    Placed keyOf c.counted rs ws ∧ c.counted.residents.Perm c.residents := by
  have hcleared : Placed keyOf { c with reads := [] } (c.reads ++ rs) ws :=
    h.of_perm rfl (.refl _) rfl rfl fun _ hr => hr
  obtain ⟨hplaced, hperm⟩ := hcleared.applyReads
  exact ⟨hplaced.of_perm rfl (.refl _) rfl rfl fun _ hr => hr, hperm⟩

/-- Evicting an entry takes it from its key and from the admitted ones together. -/
theorem Placed.evict (h : Placed keyOf c rs ws) (r : Resident) : Placed keyOf (c.evict r) rs ws := by
  by_cases hholds : c.holds r = true
  · obtain ⟨e, he, hlife⟩ := holds_iff.1 hholds
    obtain ⟨hmaxCost, hlives, -⟩ := (admission_evict c r).frame
    have hshrinks := shrinks_evict c r
    have hkey : keyOf r.life = r.key := hlife ▸ (h.entry_life he).1
    have hother : ∀ {key : String} {e : Entry}, Keyed.get? (c.evict r).entries key = some e →
        e.life ≠ r.life := by
      intro key e' he' hlife'
      have hkey' := (h.entry_life (hshrinks.entry_before he')).1
      rw [hlife', hkey] at hkey'
      subst hkey'
      rw [evict_of_holds he hlife] at he'
      exact (Keyed.get?_erase_eq_some.1 he').1 rfl
    exact
      { keys_apart := by
          rw [evict_of_holds he hlife]
          exact Keyed.nodup_erase h.keys_apart r.key
        lives_apart := by
          rw [evict_of_holds he hlife]
          exact h.lives_apart.sublist (List.filter_sublist.map _)
        entry_life := fun he' => hlives ▸ h.entry_life (hshrinks.entry_before he')
        resident_life := fun hx => hlives ▸ h.resident_life (mem_residents_evict hx).1
        read_life := fun hx hfound => hlives ▸ h.read_life hx hfound
        put_life := fun hw => hlives ▸ h.put_life hw
        removal_life := fun hw => by
          obtain ⟨hlt, hremoved⟩ := h.removal_life hw
          exact ⟨hlives ▸ hlt, fun he' => hremoved (hshrinks.entry_before he')⟩
        resident_there := fun hx => by
          obtain ⟨hx, hne⟩ := mem_residents_evict hx
          rcases h.resident_there hx with hthere | hwaits
          · obtain ⟨e', he', hlife'⟩ := holds_iff.1 hthere
            exact .inl (holds_iff.2
              ⟨e', get?_evict he' (fun heq => hne hholds (hlife'.symm.trans heq)), hlife'⟩)
          · exact .inr hwaits
        entry_waits := fun he' => by
          rcases h.entry_waits (hshrinks.entry_before he') with hresident | hwaits
          · obtain ⟨x, hx, hlife'⟩ := isResident_iff.1 hresident
            exact .inl (isResident_iff.2
              ⟨x, mem_residents_evict_of_ne hx (hlife' ▸ hother he'), hlife'⟩)
          · exact .inr hwaits
        idle := fun hm => by
          obtain ⟨hnone, -⟩ := h.idle (hmaxCost ▸ hm)
          rw [hnone] at he
          cases he }
  · rw [evict_of_not_holds (Bool.eq_false_iff.2 hholds)]
    exact h

theorem Placed.evictAll (h : Placed keyOf c rs ws) (gone : List Resident) :
    Placed keyOf (gone.foldl Local.evict c) rs ws := by
  induction gone generalizing c with
  | nil => exact h
  | cons r gone ih => exact ih (h.evict r)

theorem Placed.keepBudget (h : Placed keyOf c rs ws) : Placed keyOf c.keepBudget rs ws := by
  obtain ⟨gone, -, heq⟩ := shrink_eq (c.spent - c.maxCost) c c.residents
  rw [Local.keepBudget, heq]
  exact h.evictAll gone

/-! ### Taking account of a waiting write -/

theorem Placed.unused {w : LoggedWrite} (h : Placed keyOf c rs (w :: ws))
    (hresident : ∀ r ∈ c.residents, c.holds r = true ∨ ∃ cost, .removal r.life cost ∈ ws)
    (hwaits : ∀ {key e}, Keyed.get? c.entries key = some e →
      c.isResident e.life = true ∨ ∃ oldCost, .put key e.life e.write oldCost e.cost ∈ ws) :
    Placed keyOf c rs ws where
  keys_apart := h.keys_apart
  lives_apart := h.lives_apart
  entry_life := h.entry_life
  resident_life := h.resident_life
  read_life := h.read_life
  put_life hw := h.put_life (List.mem_cons_of_mem w hw)
  removal_life hw := h.removal_life (List.mem_cons_of_mem w hw)
  resident_there hr := hresident _ hr
  entry_waits he := hwaits he
  idle hm := absurd (h.idle hm).2 (List.cons_ne_nil w ws)

theorem put_mem_cons_removal {key : String} {life write oldCost cost gone last : Nat} :
    .put key life write oldCost cost ∈ .removal gone last :: ws ↔
      .put key life write oldCost cost ∈ ws := by
  simp

theorem removal_mem_cons_put {key : String} {life write oldCost cost gone last : Nat} :
    .removal gone last ∈ .put key life write oldCost cost :: ws ↔ .removal gone last ∈ ws := by
  simp

/-- A removed entry goes. -/
theorem Placed.leave {life cost : Nat} (h : Placed keyOf c rs (.removal life cost :: ws)) :
    Placed keyOf (c.leave life cost) rs ws := by
  have hother : ∀ {key e}, Keyed.get? c.entries key = some e → e.life ≠ life :=
    (h.removal_life List.mem_cons_self).2
  exact
    { keys_apart := h.keys_apart
      lives_apart := h.lives_apart.sublist (List.filter_sublist.map _)
      entry_life := h.entry_life
      resident_life := fun hr => h.resident_life (List.mem_filter.1 hr).1
      read_life := h.read_life
      put_life := fun hw => h.put_life (List.mem_cons_of_mem _ hw)
      removal_life := fun hw => h.removal_life (List.mem_cons_of_mem _ hw)
      resident_there := fun {r} hr => by
        obtain ⟨hr, hne⟩ := List.mem_filter.1 hr
        rcases h.resident_there hr with hthere | ⟨last, hwaits⟩
        · exact .inl hthere
        · rcases List.mem_cons.1 hwaits with heq | hwaits
          · obtain ⟨hlife, -⟩ := LoggedWrite.removal.inj heq
            exact absurd hlife (of_decide_eq_true hne)
          · exact .inr ⟨last, hwaits⟩
      entry_waits := fun {key e} he => by
        rcases h.entry_waits he with hresident | ⟨oldCost, hwaits⟩
        · exact .inl (isResident_leave.2 ⟨hresident, hother he⟩)
        · exact .inr ⟨oldCost, put_mem_cons_removal.1 hwaits⟩
      idle := fun hm => absurd (h.idle hm).2 (List.cons_ne_nil _ ws) }

/-- A removal that finds nothing to take out. -/
theorem Placed.gone {life cost : Nat} (h : Placed keyOf c rs (.removal life cost :: ws))
    (hresident : c.isResident life = false) : Placed keyOf c rs ws := by
  refine h.unused (fun r hr => ?_) fun he => ?_
  · rcases h.resident_there hr with hthere | ⟨last, hwaits⟩
    · exact .inl hthere
    · rcases List.mem_cons.1 hwaits with heq | hwaits
      · obtain ⟨rfl, -⟩ := LoggedWrite.removal.inj heq
        exact absurd (isResident_iff.2 ⟨r, hr, rfl⟩) (Bool.eq_false_iff.1 hresident)
      · exact .inr ⟨last, hwaits⟩
  · rcases h.entry_waits he with hresident | ⟨oldCost, hwaits⟩
    · exact .inl hresident
    · exact .inr ⟨oldCost, put_mem_cons_removal.1 hwaits⟩

/-- The write of an entry that is admitted, or that is not there any more, is not waited for. -/
theorem Placed.put_unused {key : String} {life write oldCost cost : Nat}
    (h : Placed keyOf c rs (.put key life write oldCost cost :: ws))
    (hentry : ∀ e, Keyed.get? c.entries key = some e → e.life = life → e.write = write →
      c.isResident life = true) : Placed keyOf c rs ws := by
  refine h.unused (fun r hr => ?_) fun {k e} he => ?_
  · rcases h.resident_there hr with hthere | ⟨last, hwaits⟩
    · exact .inl hthere
    · exact .inr ⟨last, removal_mem_cons_put.1 hwaits⟩
  · rcases h.entry_waits he with hresident | ⟨old, hwaits⟩
    · exact .inl hresident
    · rcases List.mem_cons.1 hwaits with heq | hwaits
      · obtain ⟨rfl, rfl, rfl, -⟩ := LoggedWrite.put.inj heq
        exact .inl (hentry e he rfl rfl)
      · exact .inr ⟨old, hwaits⟩

/-- An entry comes in at the young end. -/
theorem Placed.enter {key : String} {e : Entry} {write oldCost cost : Nat}
    (h : Placed keyOf c rs (.put key e.life write oldCost cost :: ws))
    (hfound : Keyed.get? c.entries key = some e) (hresident : c.isResident e.life = false) :
    Placed keyOf (c.enter key e.life cost) rs ws := by
  have hgrown : Placed keyOf (c.enter key e.life cost) rs (.put key e.life write oldCost cost :: ws) :=
    { keys_apart := h.keys_apart
      lives_apart := by
        refine ((List.perm_append_singleton _ _).map _).nodup_iff.2 (List.nodup_cons.2 ⟨fun hmem => ?_,
          h.lives_apart⟩)
        obtain ⟨r, hr, hlife⟩ := List.mem_map.1 hmem
        exact Bool.eq_false_iff.1 hresident (isResident_iff.2 ⟨r, hr, hlife⟩)
      entry_life := h.entry_life
      resident_life := fun hr => by
        rcases List.mem_append.1 hr with hr | hr
        · exact h.resident_life hr
        · rw [List.mem_singleton.1 hr]
          exact h.entry_life hfound
      read_life := h.read_life
      put_life := h.put_life
      removal_life := h.removal_life
      resident_there := fun hr => by
        rcases List.mem_append.1 hr with hr | hr
        · exact h.resident_there hr
        · rw [List.mem_singleton.1 hr]
          exact .inl (holds_iff.2 ⟨e, hfound, rfl⟩)
      entry_waits := fun he => by
        rcases h.entry_waits he with hresident | hwaits
        · exact .inl (isResident_enter.2 (.inl hresident))
        · exact .inr hwaits
      idle := h.idle }
  exact hgrown.put_unused fun _ _ _ _ => isResident_enter.2 (.inr rfl)

/-- An entry that is not admitted goes, unless it has been written again. -/
theorem Placed.refuse {key : String} {e : Entry} {write oldCost cost : Nat}
    (h : Placed keyOf c rs (.put key e.life write oldCost cost :: ws))
    (hfound : Keyed.get? c.entries key = some e) (hresident : c.isResident e.life = false) :
    Placed keyOf (c.refuse key write) rs ws := by
  simp only [Local.refuse, hfound]
  split
  · exact
      { keys_apart := Keyed.nodup_erase h.keys_apart key
        lives_apart := h.lives_apart
        entry_life := fun he' => h.entry_life (Keyed.get?_erase_eq_some.1 he').2
        resident_life := h.resident_life
        read_life := h.read_life
        put_life := fun hw => h.put_life (List.mem_cons_of_mem _ hw)
        removal_life := fun hw => by
          obtain ⟨hlt, hremoved⟩ := h.removal_life (List.mem_cons_of_mem _ hw)
          exact ⟨hlt, fun he' => hremoved (Keyed.get?_erase_eq_some.1 he').2⟩
        resident_there := fun {r} hr => by
          rcases h.resident_there hr with hthere | ⟨last, hwaits⟩
          · obtain ⟨e', he', hlife⟩ := holds_iff.1 hthere
            refine .inl (holds_iff.2 ⟨e', ?_, hlife⟩)
            refine Keyed.get?_erase_eq_some.2 ⟨fun hkey => ?_, he'⟩
            rw [hkey, hfound] at he'
            obtain rfl := Option.some.inj he'
            exact Bool.eq_false_iff.1 hresident (isResident_iff.2 ⟨r, hr, hlife.symm⟩)
          · exact .inr ⟨last, removal_mem_cons_put.1 hwaits⟩
        entry_waits := fun he' => by
          obtain ⟨hne, he'⟩ := Keyed.get?_erase_eq_some.1 he'
          rcases h.entry_waits he' with hresident | ⟨old, hwaits⟩
          · exact .inl hresident
          · exact .inr ⟨old, (List.mem_cons.1 hwaits).resolve_left fun heq =>
              hne (LoggedWrite.put.inj heq).1⟩
        idle := fun hm => absurd (h.idle hm).2 (List.cons_ne_nil _ ws) }
  · rename_i hwrite
    refine h.put_unused fun e' he' _ hw => ?_
    rw [hfound] at he'
    exact absurd (Option.some.inj he' ▸ hw) hwrite

theorem Placed.applyWrite {w : LoggedWrite} (h : Placed keyOf c rs (w :: ws)) :
    Placed keyOf (c.applyWrite w) rs ws := by
  have happlied := applied_applyWrite c w
  generalize c.applyWrite w = d at happlied ⊢
  cases happlied with
  | left => exact h.leave
  | gone hresident => exact h.gone hresident
  | missed hother => exact h.put_unused fun e he hlife => absurd hlife (hother e he)
  | renewed hfound hresident =>
    exact (h.put_unused fun _ _ _ _ => hresident).of_perm rfl
      (h.renew_perm (h.entry_life hfound).1 hresident) rfl rfl fun _ hr => hr
  | entered hfound hresident => exact h.enter hfound hresident
  | displaced hfound hresident _ hold =>
    exact (h.evictAll _).enter (get?_evictAll _ hfound (life_ne_of_gone hold hresident))
      (isResident_evictAll _ hresident)
  | refused hfound hresident => exact h.refuse hfound hresident

theorem Placed.applyWrites {writes : List LoggedWrite} (h : Placed keyOf c rs (writes ++ ws)) :
    Placed keyOf (writes.foldl Local.applyWrite c) rs ws := by
  induction writes generalizing c with
  | nil => exact h
  | cons w writes ih => exact ih h.applyWrite

theorem Placed.startCounting (h : Placed keyOf c rs ws) : Placed keyOf c.startCounting rs ws := by
  simp only [Local.startCounting]
  split
  · exact h.of_perm rfl (.refl _) rfl rfl fun _ hr => hr
  · exact h

theorem Placed.maintain (hm : c.maxCost ≠ 0) (h : Placed keyOf c (c.reads ++ rs) (c.writes ++ ws)) :
    Placed keyOf c.maintain rs ws := by
  rw [maintain_eq hm]
  exact h.counted.1.applyWrites.startCounting.keepBudget

/-- If all admitted entries are still under their keys, evicting them brings the account back into the
budget, or none is left. -/
theorem shrink_within (residents : List Resident) {excess budget : Nat} (hres : c.residents = residents)
    (hapart : (c.residents.map (·.life)).Nodup) (hthere : ∀ r ∈ c.residents, c.holds r = true)
    (hexcess : c.spent ≤ budget + excess) :
    (shrink excess c residents).spent ≤ budget ∨ (shrink excess c residents).residents = [] := by
  induction residents generalizing excess c with
  | nil => exact .inr hres
  | cons r residents ih =>
    simp only [shrink]
    split
    · rename_i hnone
      exact .inl (by omega)
    · rw [hres] at hapart hthere
      obtain ⟨e, he, hlife⟩ := holds_iff.1 (hthere r List.mem_cons_self)
      obtain ⟨hfirst, hrest⟩ := List.nodup_cons.1 hapart
      have hne : ∀ x ∈ residents, x.life ≠ r.life := fun x hx heq => hfirst (List.mem_map.2 ⟨x, hx, heq⟩)
      have hleft : (c.evict r).residents = residents := by
        rw [evict_of_holds he hlife]
        show c.residents.filter (·.life ≠ r.life) = residents
        rw [hres, List.filter_cons_of_neg (by simp)]
        exact List.filter_eq_self.2 fun x hx => decide_eq_true (hne x hx)
      have hspent : (c.evict r).spent = c.spent - e.cost := by
        rw [evict_of_holds he hlife]
        rfl
      rw [he, Option.map_some, Option.getD_some]
      refine ih hleft (hleft ▸ hrest) (fun x hx => ?_) (by omega)
      rw [hleft] at hx
      obtain ⟨e', he', hlife'⟩ := holds_iff.1 (hthere x (List.mem_cons_of_mem r hx))
      exact holds_iff.2 ⟨e', get?_evict he' (hlife' ▸ hne x hx), hlife'⟩

/-- Maintenance after which no writes wait keeps to the budget, unless nothing is admitted. -/
theorem Placed.maintain_within (hm : c.maxCost ≠ 0) (h : Placed keyOf c (c.reads ++ rs) c.writes) :
    c.maintain.spent ≤ c.maintain.maxCost ∨ c.maintain.residents = [] := by
  rw [← List.append_nil c.writes] at h
  have hstarted := h.counted.1.applyWrites.startCounting
  rw [(shrinks_maintain c).maxCost_eq, maintain_eq hm]
  refine shrink_within _ rfl hstarted.lives_apart (fun r hr => ?_) ?_
  · rcases hstarted.resident_there hr with hthere | ⟨_, hwaits⟩
    · exact hthere
    · cases hwaits
  · have hmax : (c.writes.foldl Local.applyWrite c.counted).startCounting.maxCost = c.maxCost := by
      rw [(shrinks_startCounting _).maxCost_eq, (shrinks_foldl shrinks_applyWrite _ _).maxCost_eq, counted_eq]
    omega

/-! ### Calls -/

theorem Placed.get (h : Placed keyOf c rs ws) (key : String) :
    Placed keyOf c (rs ++ [⟨key, (Keyed.get? c.entries key).map (·.life)⟩]) ws :=
  { h with
    read_life := fun hr hfound => by
      rcases List.mem_append.1 hr with hr | hr
      · exact h.read_life hr hfound
      · obtain rfl := List.mem_singleton.1 hr
        obtain ⟨e, he, rfl⟩ := Option.map_eq_some_iff.1 hfound
        exact h.entry_life he }

/-- A removed entry that is admitted waits to be taken out. -/
theorem Placed.delete (h : Placed keyOf c rs ws) {key : String} {e : Entry}
    (hfound : Keyed.get? c.entries key = some e) :
    Placed keyOf { c with entries := Keyed.erase c.entries key } rs
      (ws ++ [.removal e.life e.cost]) where
  keys_apart := Keyed.nodup_erase h.keys_apart key
  lives_apart := h.lives_apart
  entry_life he' := h.entry_life (Keyed.get?_erase_eq_some.1 he').2
  resident_life := h.resident_life
  read_life := h.read_life
  put_life hw := by
    rcases List.mem_append.1 hw with hw | hw
    · exact h.put_life hw
    · cases List.mem_singleton.1 hw
  removal_life hw := by
    rcases List.mem_append.1 hw with hw | hw
    · obtain ⟨hlt, hremoved⟩ := h.removal_life hw
      exact ⟨hlt, fun he' => hremoved (Keyed.get?_erase_eq_some.1 he').2⟩
    · obtain ⟨rfl, -⟩ := LoggedWrite.removal.inj (List.mem_singleton.1 hw)
      refine ⟨(h.entry_life hfound).2, fun {k e'} he' hlife => ?_⟩
      obtain ⟨hne, he'⟩ := Keyed.get?_erase_eq_some.1 he'
      exact hne ((h.entry_life he').1.symm.trans (hlife ▸ (h.entry_life hfound).1))
  resident_there {r} hr := by
    rcases h.resident_there hr with hthere | ⟨last, hwaits⟩
    · obtain ⟨e', he', hlife⟩ := holds_iff.1 hthere
      by_cases hkey : r.key = key
      · rw [hkey, hfound] at he'
        obtain rfl := Option.some.inj he'
        exact .inr ⟨e.cost, hlife ▸ List.mem_append_right ws (List.mem_singleton.2 rfl)⟩
      · exact .inl (holds_iff.2 ⟨e', Keyed.get?_erase_eq_some.2 ⟨hkey, he'⟩, hlife⟩)
    · exact .inr ⟨last, List.mem_append_left _ hwaits⟩
  entry_waits he' := by
    rcases h.entry_waits (Keyed.get?_erase_eq_some.1 he').2 with hresident | ⟨old, hwaits⟩
    · exact .inl hresident
    · exact .inr ⟨old, List.mem_append_left _ hwaits⟩
  idle hm := by
    rw [(h.idle hm).1] at hfound
    cases hfound

/-- A new value comes in the place of the entry under its key, or as an entry with a life of its own. -/
theorem Placed.put (h : Placed keyOf c rs ws) (hm : c.maxCost ≠ 0) {key : String} {life lives : Nat}
    (hkey : keyOf life = key) (hlife : life < lives) (hlives : c.lives ≤ lives)
    (hsame : ∀ e, Keyed.get? c.entries key = some e → e.life = life)
    (hkept : ∀ cost, .removal life cost ∉ ws) (value : ByteArray) (write oldCost cost : Nat) :
    Placed keyOf { c with entries := Keyed.put c.entries key ⟨value, cost, life, write⟩, lives := lives }
      rs (ws ++ [.put key life write oldCost cost]) := by
  have hbefore : ∀ {other}, other < c.lives → other < lives := fun hlt =>
    Nat.lt_of_lt_of_le hlt hlives
  have hput : ∀ {k e'}, Keyed.get? (Keyed.put c.entries key ⟨value, cost, life, write⟩) k = some e' →
      k = key ∧ e' = ⟨value, cost, life, write⟩ ∨ Keyed.get? c.entries k = some e' := by
    intro k e' he'
    rw [Keyed.get?_put] at he'
    split at he'
    · rename_i heq
      exact .inl ⟨heq.symm, (Option.some.inj he').symm⟩
    · exact .inr he'
  exact
    { keys_apart := Keyed.nodup_put h.keys_apart key _
      lives_apart := h.lives_apart
      entry_life := fun he' => by
        rcases hput he' with ⟨rfl, rfl⟩ | he'
        · exact ⟨hkey, hlife⟩
        · exact ⟨(h.entry_life he').1, hbefore (h.entry_life he').2⟩
      resident_life := fun hr => ⟨(h.resident_life hr).1, hbefore (h.resident_life hr).2⟩
      read_life := fun hr hfound =>
        ⟨(h.read_life hr hfound).1, hbefore (h.read_life hr hfound).2⟩
      put_life := fun hw => by
        rcases List.mem_append.1 hw with hw | hw
        · exact ⟨(h.put_life hw).1, hbefore (h.put_life hw).2⟩
        · obtain ⟨rfl, rfl, -⟩ := LoggedWrite.put.inj (List.mem_singleton.1 hw)
          exact ⟨hkey, hlife⟩
      removal_life := fun {gone last} hw => by
        have hw : .removal gone last ∈ ws := by simpa using hw
        obtain ⟨hlt, hremoved⟩ := h.removal_life hw
        refine ⟨hbefore hlt, fun he' => ?_⟩
        rcases hput he' with ⟨-, rfl⟩ | he'
        · rintro rfl
          exact hkept last hw
        · exact hremoved he'
      resident_there := fun {r} hr => by
        rcases h.resident_there hr with hthere | ⟨last, hwaits⟩
        · obtain ⟨e', he', hlife'⟩ := holds_iff.1 hthere
          refine .inl (holds_iff.2 ?_)
          by_cases heq : key = r.key
          · refine ⟨⟨value, cost, life, write⟩, ?_, ?_⟩
            · show Keyed.get? (Keyed.put c.entries key _) r.key = _
              rw [Keyed.get?_put, if_pos heq]
            · exact (hsame e' (heq ▸ he')).symm.trans hlife'
          · refine ⟨e', ?_, hlife'⟩
            show Keyed.get? (Keyed.put c.entries key _) r.key = _
            rw [Keyed.get?_put, if_neg heq, he']
        · exact .inr ⟨last, List.mem_append_left _ hwaits⟩
      entry_waits := fun he' => by
        rcases hput he' with ⟨rfl, rfl⟩ | he'
        · exact .inr ⟨oldCost, List.mem_append_right ws (List.mem_singleton.2 rfl)⟩
        · rcases h.entry_waits he' with hresident | ⟨old, hwaits⟩
          · exact .inl hresident
          · exact .inr ⟨old, List.mem_append_left _ hwaits⟩
      idle := fun hm' => absurd hm' hm }

/-- Lives that are still to come may belong to any key. -/
theorem Placed.rename {keyOf' : Nat → String} (h : Placed keyOf c rs ws)
    (hsame : ∀ life < c.lives, keyOf' life = keyOf life) : Placed keyOf' c rs ws :=
  { h with
    entry_life := fun he => by
      obtain ⟨hkey, hlt⟩ := h.entry_life he
      exact ⟨(hsame _ hlt).trans hkey, hlt⟩
    resident_life := fun hr => by
      obtain ⟨hkey, hlt⟩ := h.resident_life hr
      exact ⟨(hsame _ hlt).trans hkey, hlt⟩
    read_life := fun hr hfound => by
      obtain ⟨hkey, hlt⟩ := h.read_life hr hfound
      exact ⟨(hsame _ hlt).trans hkey, hlt⟩
    put_life := fun hw => by
      obtain ⟨hkey, hlt⟩ := h.put_life hw
      exact ⟨(hsame _ hlt).trans hkey, hlt⟩ }

theorem Placed.putting (h : Placed keyOf c rs ws) (hm : c.maxCost ≠ 0) (key : String)
    (value : ByteArray) (cost : Nat) :
    ∃ keyOf', Placed keyOf' (c.putting key value cost).1 rs (ws ++ [(c.putting key value cost).2]) := by
  cases hfound : Keyed.get? c.entries key with
  | none =>
    have hnew : Placed (fun life => if life = c.lives then key else keyOf life) c rs ws :=
      h.rename fun life hlt => if_neg (Nat.ne_of_lt hlt)
    refine ⟨fun life => if life = c.lives then key else keyOf life, ?_⟩
    simp only [Local.putting, hfound]
    refine hnew.put hm (if_pos rfl) (Nat.lt_succ_self _) (Nat.le_succ _) (fun e he => ?_)
      (fun last hw => Nat.lt_irrefl _ (h.removal_life hw).1) value _ _ _
    rw [hfound] at he
    cases he
  | some e =>
    refine ⟨keyOf, ?_⟩
    simp only [Local.putting, hfound]
    obtain ⟨hkey, hlt⟩ := h.entry_life hfound
    refine h.put hm hkey hlt (Nat.le_refl _) (fun e' he' => ?_)
      (fun last hw => (h.removal_life hw).2 hfound rfl) value _ _ _
    rw [hfound] at he'
    exact congrArg Entry.life (Option.some.inj he').symm

end Placed

/-- The parts of the tier fit together, and where no writes wait it keeps to its budget, unless nothing
is admitted. -/
def Kept (c : Local) (rs : List LoggedRead) (ws : List LoggedWrite) : Prop :=
  (∃ keyOf, Placed keyOf c rs ws) ∧ (ws = [] → c.spent ≤ c.maxCost ∨ c.residents = [])

section Kept

variable {c : Local} {rs : List LoggedRead} {ws : List LoggedWrite}

/-- What is logged and what calls are counted does not matter. -/
theorem Kept.same (h : Kept c rs ws) (reads : List LoggedRead) (writes : List LoggedWrite)
    (written hits misses : Nat) :
    Kept { c with reads := reads, writes := writes, written := written, hits := hits, misses := misses }
      rs ws := by
  obtain ⟨⟨keyOf, hplaced⟩, hwithin⟩ := h
  exact ⟨⟨keyOf, hplaced.of_perm rfl (.refl _) rfl rfl fun _ hr => hr⟩, hwithin⟩

theorem Kept.get (h : Kept c rs ws) (key : String) :
    Kept c (rs ++ [⟨key, (Keyed.get? c.entries key).map (·.life)⟩]) ws := by
  obtain ⟨⟨keyOf, hplaced⟩, hwithin⟩ := h
  exact ⟨⟨keyOf, hplaced.get key⟩, hwithin⟩

theorem Kept.putting (h : Kept c rs ws) (hm : c.maxCost ≠ 0) (key : String) (value : ByteArray)
    (cost : Nat) :
    Kept (c.putting key value cost).1 rs (ws ++ [(c.putting key value cost).2]) := by
  obtain ⟨⟨keyOf, hplaced⟩, -⟩ := h
  exact ⟨hplaced.putting hm key value cost, fun hnil => absurd hnil (by simp)⟩

theorem Kept.delete (h : Kept c rs ws) {key : String} {e : Entry}
    (hfound : Keyed.get? c.entries key = some e) :
    Kept { c with entries := Keyed.erase c.entries key } rs (ws ++ [.removal e.life e.cost]) := by
  obtain ⟨⟨keyOf, hplaced⟩, -⟩ := h
  exact ⟨⟨keyOf, hplaced.delete hfound⟩, fun hnil => absurd hnil (by simp)⟩

theorem Kept.maintain (hm : c.maxCost ≠ 0) (h : Kept c (c.reads ++ rs) (c.writes ++ ws)) :
    Kept c.maintain rs ws := by
  obtain ⟨⟨keyOf, hplaced⟩, -⟩ := h
  refine ⟨⟨keyOf, hplaced.maintain hm⟩, ?_⟩
  rintro rfl
  rw [List.append_nil] at hplaced
  exact hplaced.maintain_within hm

end Kept

theorem kept_respond (call : LocalCall) {c : Local} (h : Kept c c.reads c.writes) :
    Kept (c.respond call).2 (c.respond call).2.reads (c.respond call).2.writes :=
  respond_keeps (fun _ _ _ _ _ hd => hd.same _ _ _ _ _)
    (fun key value cost _ hm => h.putting hm key value cost)
    (fun _ _ _ hfound => h.delete hfound) (fun _ _ hm _ hd => hd.maintain hm) h
    fun key _ _ => h.get key

/-- In every run of calls the parts of the tier fit together. -/
theorem kept_afterCalls (sizing : Sizing) (calls : List LocalCall) :
    Kept (afterCalls sizing calls) (afterCalls sizing calls).reads (afterCalls sizing calls).writes :=
  Program.after_induction (P := fun c : Local => Kept c c.reads c.writes)
    (fun call _ h => kept_respond call h)
    ⟨⟨fun _ => "", placed_ofSizing sizing⟩, fun _ => .inr rfl⟩ calls

section Idle

variable {keyOf : Nat → String} {c : Local} {rs : List LoggedRead}

theorem Placed.there (h : Placed keyOf c rs []) {r : Resident} (hr : r ∈ c.residents) :
    ∃ e, Keyed.get? c.entries r.key = some e ∧ e.life = r.life := by
  rcases h.resident_there hr with hthere | ⟨_, hwaits⟩
  · exact holds_iff.1 hthere
  · cases hwaits

/-- Where no writes wait the admitted entries are exactly what is found, and no key comes twice. -/
theorem Placed.residents_keys (h : Placed keyOf c rs []) : (c.residents.map (·.key)).Nodup ∧
    ∀ key, key ∈ c.residents.map (·.key) ↔ (Keyed.get? c.entries key).isSome = true := by
  refine ⟨?_, fun key => ⟨fun hkey => ?_, fun hfound => ?_⟩⟩
  · refine (List.nodup_map_iff_inj_on (h.lives_apart.of_map _)).2 fun r hr r' hr' hkey => ?_
    obtain ⟨e, he, hlife⟩ := h.there hr
    obtain ⟨e', he', hlife'⟩ := h.there hr'
    rw [hkey, he'] at he
    obtain rfl := Option.some.inj he
    exact List.inj_on_of_nodup_map h.lives_apart hr hr' (hlife.symm.trans hlife')
  · obtain ⟨r, hr, rfl⟩ := List.mem_map.1 hkey
    obtain ⟨e, he, -⟩ := h.there hr
    rw [he, Option.isSome_some]
  · obtain ⟨e, he⟩ := Option.isSome_iff_exists.1 hfound
    rcases h.entry_waits he with hresident | ⟨_, hwaits⟩
    · exact List.mem_map.2 ⟨_, h.mem_residents (h.entry_life he).1 hresident, rfl⟩
    · cases hwaits

end Idle

end Roster.Cache.Local
