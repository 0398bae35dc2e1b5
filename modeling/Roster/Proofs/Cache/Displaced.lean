import Roster.Proofs.Cache.Admitted

/-!
# Who is displaced from the local tier

An entry that is admitted stays as long as no other is looked up more often: new entries are admitted only
in the place of others that are looked up less, and nobody else is evicted while the account keeps to the
budget.

* `Guarded` is what holds of the tier while an entry stays; `Guarded.applyWrite` says that taking account
  of a write keeps it, and `Guarded.maintain` that maintenance does.
* `Spares` says that a run of calls leaves a key its place, `SingleUse` that it sets new keys only, and
  `looked_up_keys_stay` that after either the key is still admitted.
* `dear_value_displaces` is a run in which an entry costs more than the whole budget.
-/

namespace Roster.Cache.Local

/-- Two writes of one entry, the later one of which does not raise the cost. -/
def Lowers : LoggedWrite → LoggedWrite → Prop
  | .put _ life _ _ cost, .put _ life' _ oldCost' cost' => life = life' → cost' ≤ oldCost' ∧ cost' ≤ cost
  | _, _ => True

/-- What holds of a tier while the entry `e₀` under a key stays admitted: the account keeps to the budget,
and what waits does not raise the cost of any entry. Waiting writes are of `candidate` keys only, and if
`resets` then no admitted entry costs more than the whole budget. -/
structure Guarded (candidate : String → Prop) (resets : Prop) (key : String) (e₀ : Entry) (c : Local)
    (ws : List LoggedWrite) : Prop where
  found : Keyed.get? c.entries key = some e₀
  admitted : c.isResident e₀.life = true
  within : c.spent ≤ c.maxCost
  candidates {k : String} {life write oldCost cost : Nat} :
    .put k life write oldCost cost ∈ ws → candidate k
  entry_le {k : String} {e : Entry} {write oldCost cost : Nat} :
    Keyed.get? c.entries k = some e → .put k e.life write oldCost cost ∈ ws → e.cost ≤ cost
  resident_le {k : String} {e : Entry} : resets →
    Keyed.get? c.entries k = some e → c.isResident e.life = true → e.cost ≤ c.maxCost
  put_le {k : String} {life write oldCost cost : Nat} : .put k life write oldCost cost ∈ ws →
    c.isResident life = true → cost ≤ oldCost ∧ cost ≤ c.maxCost
  lowers : ws.Pairwise Lowers

section Guarded

variable {keyOf : Nat → String} {candidate : String → Prop} {resets : Prop} {key : String} {e₀ : Entry}
  {c d : Local} {rs : List LoggedRead} {w : LoggedWrite} {ws : List LoggedWrite}

theorem Guarded.tail (h : Guarded candidate resets key e₀ c (w :: ws)) :
    Guarded candidate resets key e₀ c ws :=
  { h with
    candidates := fun hw => h.candidates (List.mem_cons_of_mem w hw)
    entry_le := fun he hw => h.entry_le he (List.mem_cons_of_mem w hw)
    put_le := fun hw => h.put_le (List.mem_cons_of_mem w hw)
    lowers := (List.pairwise_cons.1 h.lowers).2 }

/-- Fewer entries and fewer admitted ones change nothing, as long as the entry is still there and the
account keeps to the budget. -/
theorem Guarded.shrink (h : Guarded candidate resets key e₀ c ws) (hd : Shrinks c d)
    (hfound : Keyed.get? d.entries key = some e₀) (hadmitted : d.isResident e₀.life = true)
    (hresidents : ∀ life, d.isResident life = true → c.isResident life = true)
    (hspent : d.spent ≤ d.maxCost) : Guarded candidate resets key e₀ d ws where
  found := hfound
  admitted := hadmitted
  within := hspent
  candidates := h.candidates
  entry_le he := h.entry_le (hd.entry_before he)
  resident_le hresets he hresident :=
    hd.maxCost_eq ▸ h.resident_le hresets (hd.entry_before he) (hresidents _ hresident)
  put_le hw hresident := by
    rw [hd.maxCost_eq]
    exact h.put_le hw (hresidents _ hresident)
  lowers := h.lowers

theorem Guarded.of_perm (h : Guarded candidate resets key e₀ c ws) (hentries : d.entries = c.entries)
    (hresidents : d.residents.Perm c.residents) (hmax : d.maxCost = c.maxCost)
    (hspent : d.spent = c.spent) : Guarded candidate resets key e₀ d ws :=
  h.shrink (shrinks_of_eq hmax hentries) (hentries ▸ h.found)
    ((isResident_perm hresidents _).trans h.admitted)
    (fun l hl => (isResident_perm hresidents l).symm.trans hl) (by rw [hspent, hmax]; exact h.within)

/-- An entry comes in that has been set at a cost within the budget. -/
theorem Guarded.enter {k : String} {e : Entry} {write oldCost cost : Nat}
    (h : Guarded candidate resets key e₀ c (.put k e.life write oldCost cost :: ws))
    (hplaced : Placed keyOf c rs (.put k e.life write oldCost cost :: ws))
    (hd : Shrinks c d) (hfound : Keyed.get? c.entries k = some e)
    (hkept : Keyed.get? d.entries key = some e₀) (hadmitted : d.isResident e₀.life = true)
    (hresidents : ∀ life, d.isResident life = true → c.isResident life = true)
    (hspent : d.spent + cost ≤ d.maxCost) (hfits : cost ≤ c.maxCost) :
    Guarded candidate resets key e₀ (d.enter k e.life cost) ws := by
  have hcases : ∀ {life}, (d.enter k e.life cost).isResident life = true →
      c.isResident life = true ∨ e.life = life := fun hresident =>
    (isResident_enter.1 hresident).imp_left (hresidents _)
  have hmax : (d.enter k e.life cost).maxCost = c.maxCost := hd.maxCost_eq
  refine ⟨hkept, ?_, hspent, fun hw => h.candidates (List.mem_cons_of_mem _ hw), fun he hw => ?_,
    fun hresets he hresident => ?_, fun {k' life _ _ _} hw hresident => ?_, ?_⟩
  · exact isResident_enter.2 (.inl hadmitted)
  · exact h.entry_le (hd.entry_before he) (List.mem_cons_of_mem _ hw)
  · rw [hmax]
    rcases hcases hresident with hresident | hlife
    · exact h.resident_le hresets (hd.entry_before he) hresident
    · have hkey := (hplaced.entry_life (hd.entry_before he)).1
      rw [← hlife, (hplaced.entry_life hfound).1] at hkey
      subst hkey
      have heq := Option.some.inj (hfound.symm.trans (hd.entry_before he))
      rw [← heq]
      exact Nat.le_trans (h.entry_le hfound List.mem_cons_self) hfits
  · rw [hmax]
    rcases hcases hresident with hresident | rfl
    · exact h.put_le (List.mem_cons_of_mem _ hw) hresident
    · obtain ⟨hold, hless⟩ := (List.pairwise_cons.1 h.lowers).1 _ hw rfl
      exact ⟨hold, Nat.le_trans hless hfits⟩
  · exact (List.pairwise_cons.1 h.lowers).2

/-- Taking account of a write leaves the entry its place if the key that was written is not looked up more
often. -/
theorem Guarded.applyWrite (hplaced : Placed keyOf c rs (w :: ws))
    (h : Guarded candidate resets key e₀ c (w :: ws))
    (hcount : ∀ k, candidate k → c.count k ≤ c.count key) :
    Guarded candidate resets key e₀ (c.applyWrite w) ws := by
  have happlied := applied_applyWrite c w
  generalize c.applyWrite w = d at happlied ⊢
  cases happlied with
  | @left life cost hresident =>
    have hne : e₀.life ≠ life := (hplaced.removal_life List.mem_cons_self).2 h.found
    exact h.tail.shrink (shrinks_of_eq rfl rfl) h.found (isResident_leave.2 ⟨h.admitted, hne⟩)
      (fun l hl => (isResident_leave.1 hl).1) (Nat.le_trans (Nat.sub_le _ _) h.within)
  | gone => exact h.tail.shrink (.refl c) h.found h.admitted (fun _ hl => hl) h.within
  | missed => exact h.tail.shrink (.refl c) h.found h.admitted (fun _ hl => hl) h.within
  | @renewed k e write oldCost cost hfound hresident =>
    obtain ⟨hold, hfits⟩ := h.put_le List.mem_cons_self hresident
    have hwithin := h.within
    have hperm := hplaced.renew_perm (hplaced.entry_life hfound).1 hresident
    refine h.tail.shrink (shrinks_of_eq rfl rfl) h.found ((isResident_perm hperm _).trans h.admitted)
      (fun l hl => (isResident_perm hperm l).symm.trans hl) ?_
    show c.spent - oldCost + cost ≤ c.maxCost
    omega
  | entered hfound hresident hroom =>
    exact h.enter hplaced (.refl c) hfound h.found h.admitted (fun _ hl => hl) hroom
      (Nat.le_trans (Nat.le_add_left _ _) hroom)
  | @displaced k e write oldCost cost gone hfound hresident hfits hold hthere hroom hmore =>
    have hapart : (gone.map (·.life)).Nodup := hplaced.lives_apart.sublist (hold.map _)
    have hspent := spent_evictAll hapart hthere
    have hwithin := h.within
    -- the entry itself would be among those looked up less often than the new one
    have hspared : ∀ r ∈ gone, e₀.life ≠ r.life := by
      intro r hr hlife
      have hkey : r.key = key := by
        rw [← (hplaced.resident_life (hold.mem hr)).1, ← hlife, (hplaced.entry_life h.found).1]
      have hle := le_totalOf (fun r => c.count r.key) hr
      have hless := hcount k (h.candidates List.mem_cons_self)
      simp only [hkey] at hle
      omega
    have hshrinks := shrinks_foldl shrinks_evict gone c
    refine h.enter hplaced hshrinks hfound (get?_evictAll gone h.found hspared)
      (isResident_evictAll_of_ne h.admitted hspared) (fun _ => isResident_of_evictAll) ?_ hfits
    rw [hshrinks.maxCost_eq, hspent]
    omega
  | @refused k e write oldCost cost hfound hresident =>
    have hne : key ≠ k := by
      rintro rfl
      have heq := Option.some.inj (h.found.symm.trans hfound)
      exact Bool.eq_false_iff.1 hresident (heq ▸ h.admitted)
    simp only [refuse, hfound]
    split
    · exact h.tail.shrink (shrinks_of_erase rfl rfl) (Keyed.get?_erase_eq_some.2 ⟨hne, h.found⟩) h.admitted
        (fun _ hl => hl) h.within
    · exact h.tail.shrink (.refl c) h.found h.admitted (fun _ hl => hl) h.within

theorem Guarded.applyWrites {writes : List LoggedWrite} (hplaced : Placed keyOf c rs (writes ++ ws))
    (h : Guarded candidate resets key e₀ c (writes ++ ws))
    (hcount : ∀ k, candidate k → c.count k ≤ c.count key) :
    Guarded candidate resets key e₀ (writes.foldl Local.applyWrite c) ws := by
  induction writes generalizing c with
  | nil => exact h
  | cons w writes ih =>
    refine ih hplaced.applyWrite (h.applyWrite hplaced hcount) fun k hk => ?_
    simp only [count, (admission_applyWrite c w).frame.2.2]
    exact hcount k hk

theorem shrink_none (c : Local) (residents : List Resident) : Local.shrink 0 c residents = c := by
  cases residents with
  | nil => rfl
  | cons r residents => exact if_pos rfl

/-- Maintenance leaves the entry its place if no candidate key is looked up more often. -/
theorem Guarded.maintain (hm : c.maxCost ≠ 0) (hplaced : Placed keyOf c (c.reads ++ rs) (c.writes ++ ws))
    (h : Guarded candidate resets key e₀ c (c.writes ++ ws))
    (hcount : ∀ k, candidate k → c.counted.count k ≤ c.counted.count key) :
    Guarded candidate resets key e₀ c.maintain ws := by
  obtain ⟨hcounted, hperm⟩ := hplaced.counted
  have hread : Guarded candidate resets key e₀ c.counted (c.writes ++ ws) :=
    h.of_perm (by rw [counted_eq]) hperm (by rw [counted_eq]) (by rw [counted_eq])
  have hwritten := hread.applyWrites hcounted hcount
  have hstarted : Guarded candidate resets key e₀
      (c.writes.foldl Local.applyWrite c.counted).startCounting ws := by
    simp only [startCounting]
    split
    · exact hwritten.of_perm rfl (.refl _) rfl rfl
    · exact hwritten
  rw [maintain_eq hm, keepBudget, Nat.sub_eq_zero_of_le hstarted.within, shrink_none]
  exact hstarted

/-! ### Calls -/

theorem Guarded.delete (h : Guarded candidate resets key e₀ c ws) {k : String} {life cost : Nat}
    (hne : k ≠ key) :
    Guarded candidate resets key e₀ { c with entries := Keyed.erase c.entries k }
      (ws ++ [.removal life cost]) := by
  have hput : ∀ {k' life' write old new}, .put k' life' write old new ∈ ws ++ [.removal life cost] →
      .put k' life' write old new ∈ ws := fun hw => by simpa using hw
  exact
    { found := Keyed.get?_erase_eq_some.2 ⟨hne.symm, h.found⟩
      admitted := h.admitted
      within := h.within
      candidates := fun hw => h.candidates (hput hw)
      entry_le := fun he hw => h.entry_le (Keyed.get?_erase_eq_some.1 he).2 (hput hw)
      resident_le := fun hresets he => h.resident_le hresets (Keyed.get?_erase_eq_some.1 he).2
      put_le := fun hw => h.put_le (hput hw)
      lowers := List.pairwise_append.2 ⟨h.lowers, List.pairwise_singleton _ _, fun w _ w' hw' => by
        rw [List.mem_singleton.1 hw']
        cases w <;> trivial⟩ }

/-- A value is set at a cost that is no higher than those of its entry that wait, nor than the budget if its
entry is admitted. -/
theorem Guarded.put (h : Guarded candidate resets key e₀ c ws) {k : String} {life lives : Nat}
    (hne : k ≠ key) (hcandidate : candidate k)
    (hother : ∀ {k' e}, Keyed.get? c.entries k' = some e → k' ≠ k → e.life ≠ life) {oldCost cost : Nat}
    (hwaits : ∀ {k' write old new}, .put k' life write old new ∈ ws → cost ≤ oldCost ∧ cost ≤ new)
    (hresident : c.isResident life = true → cost ≤ oldCost ∧ cost ≤ c.maxCost)
    (value : ByteArray) (write : Nat) :
    Guarded candidate resets key e₀
      { c with entries := Keyed.put c.entries k ⟨value, cost, life, write⟩, lives := lives }
      (ws ++ [.put k life write oldCost cost]) := by
  have hput : ∀ {k' e}, Keyed.get? (Keyed.put c.entries k ⟨value, cost, life, write⟩) k' = some e →
      e = ⟨value, cost, life, write⟩ ∨ e.life ≠ life ∧ Keyed.get? c.entries k' = some e := by
    intro k' e he
    rw [Keyed.get?_put] at he
    split at he
    · exact .inl (Option.some.inj he).symm
    · rename_i hk
      exact .inr ⟨hother he (Ne.symm hk), he⟩
  have hcases : ∀ {k' life' write' old new},
      .put k' life' write' old new ∈ ws ++ [.put k life write oldCost cost] →
      .put k' life' write' old new ∈ ws ∨ k' = k ∧ life' = life ∧ old = oldCost ∧ new = cost := by
    intro k' life' write' old new hw
    rcases List.mem_append.1 hw with hw | hw
    · exact .inl hw
    · obtain ⟨rfl, rfl, -, rfl, rfl⟩ := LoggedWrite.put.inj (List.mem_singleton.1 hw)
      exact .inr ⟨rfl, rfl, rfl, rfl⟩
  refine ⟨?_, h.admitted, h.within, fun hw => ?_, fun he hw => ?_, fun hresets he hl => ?_,
    fun hw hl => ?_, ?_⟩
  · show Keyed.get? (Keyed.put c.entries k _) key = some e₀
    rw [Keyed.get?_put, if_neg hne]
    exact h.found
  · rcases hcases hw with hw | ⟨rfl, -⟩
    · exact h.candidates hw
    · exact hcandidate
  · rcases hput he with rfl | ⟨hlife, he⟩
    · rcases hcases hw with hw | ⟨-, -, -, rfl⟩
      · exact (hwaits hw).2
      · exact Nat.le_refl _
    · exact h.entry_le he ((hcases hw).resolve_right fun heq => hlife heq.2.1)
  · rcases hput he with rfl | ⟨-, he⟩
    · exact (hresident hl).2
    · exact h.resident_le hresets he hl
  · rcases hcases hw with hw | ⟨-, rfl, rfl, rfl⟩
    · exact h.put_le hw hl
    · exact hresident hl
  · refine List.pairwise_append.2 ⟨h.lowers, List.pairwise_singleton _ _, fun w hw w' hw' => ?_⟩
    rw [List.mem_singleton.1 hw']
    cases w with
    | removal => trivial
    | put k' life' write' old new =>
      rintro rfl
      exact hwaits hw

theorem Guarded.putting (hplaced : Placed keyOf c rs ws) (h : Guarded candidate resets key e₀ c ws)
    {k : String} (hne : k ≠ key) (hcandidate : candidate k) {cost : Nat}
    (hcheaper : ∀ e, Keyed.get? c.entries k = some e → resets ∧ min cost greatestCost ≤ e.cost)
    (value : ByteArray) :
    Guarded candidate resets key e₀ (c.putting k value cost).1 (ws ++ [(c.putting k value cost).2]) := by
  cases hfound : Keyed.get? c.entries k with
  | none =>
    simp only [Local.putting, hfound]
    refine h.put hne hcandidate (fun he _ => Nat.ne_of_lt (hplaced.entry_life he).2)
      (fun hw => absurd (hplaced.put_life hw).2 (Nat.lt_irrefl _)) (fun hl => ?_) value _
    obtain ⟨r, hr, hlife⟩ := isResident_iff.1 hl
    exact absurd (hlife ▸ (hplaced.resident_life hr).2) (Nat.lt_irrefl _)
  | some e =>
    obtain ⟨hresets, hless⟩ := hcheaper e hfound
    simp only [Local.putting, hfound]
    obtain ⟨hkey, -⟩ := hplaced.entry_life hfound
    refine h.put hne hcandidate (fun he hk hlife => hk ?_) (fun hw => ⟨hless, ?_⟩)
      (fun hl => ⟨hless, ?_⟩) value _
    · rw [← (hplaced.entry_life he).1, hlife, hkey]
    · obtain rfl := hkey.symm.trans (hplaced.put_life hw).1
      exact Nat.le_trans hless (h.entry_le hfound hw)
    · exact Nat.le_trans hless (h.resident_le hresets hfound hl)

end Guarded

/-- A call leaves an admitted entry its place if it does not write its key, raises the cost of none that is
found, and no candidate key is looked up more often when the tier is maintained. -/
theorem guarded_respond {candidate : String → Prop} {resets : Prop} {key : String} {e₀ : Entry} {c : Local}
    {call : LocalCall} (hkept : Kept c c.reads c.writes)
    (h : Guarded candidate resets key e₀ c c.writes) (hspared : call.writes key = false)
    (hset : ∀ k value cost, call = .set k value cost → candidate k ∧
      ∀ e, Keyed.get? c.entries k = some e → resets ∧ min cost greatestCost ≤ e.cost)
    (hcount : ∀ m ∈ c.upkeep call, m.1.maxCost ≠ 0 → ∀ k, candidate k →
      m.1.counted.count k ≤ m.1.counted.count key) :
    Guarded candidate resets key e₀ (c.respond call).2 (c.respond call).2.writes := by
  refine (respond_keeps (P := fun d rs ws => Kept d rs ws ∧ Guarded candidate resets key e₀ d ws)
    ?_ ?_ ?_ ?_ ⟨hkept, h⟩ fun k _ _ => ⟨hkept.get k, h⟩).2
  · rintro d rs ws _ _ _ _ _ ⟨hd, hguarded⟩
    exact ⟨hd.same _ _ _ _ _, hguarded.of_perm rfl (.refl _) rfl rfl⟩
  · rintro k value cost rfl hm
    obtain ⟨⟨keyOf, hplaced⟩, -⟩ := id hkept
    obtain ⟨hcandidate, hcheaper⟩ := hset k value cost rfl
    exact ⟨hkept.putting hm k value cost,
      h.putting hplaced (of_decide_eq_false hspared) hcandidate hcheaper value⟩
  · rintro k e rfl hfound
    exact ⟨hkept.delete hfound, h.delete (of_decide_eq_false hspared)⟩
  · rintro m hmem hm rs ⟨hd, hguarded⟩
    obtain ⟨⟨keyOf, hplaced⟩, -⟩ := id hd
    exact ⟨hd.maintain hm, hguarded.maintain hm hplaced (hcount m hmem hm)⟩

/-! ### Keys that are never looked up -/

/-- Some keys have not been looked up, as far as counted, and no lookup of them waits. -/
def Unread (candidate : String → Prop) (c : Local) (rs : List LoggedRead) : Prop :=
  ∀ k, candidate k → c.count k = 0 ∧ ∀ r ∈ rs, r.key ≠ k

section Unread

variable {candidate : String → Prop} {c : Local} {rs : List LoggedRead}

theorem Unread.applyRead {r : LoggedRead} (h : Unread candidate c (r :: rs)) :
    Unread candidate (c.applyRead r) rs := by
  intro k hk
  obtain ⟨hcount, hwaits⟩ := h k hk
  refine ⟨?_, fun x hx => hwaits x (List.mem_cons_of_mem r hx)⟩
  rcases counts_applyRead c r with heq | ⟨n, heq⟩
  · rw [count, heq]
    exact hcount
  · rw [count, heq, Keyed.get?_put, if_neg (hwaits r List.mem_cons_self)]
    exact hcount

theorem Unread.counted (h : Unread candidate c (c.reads ++ rs)) : Unread candidate c.counted rs := by
  have hfold : ∀ (reads : List LoggedRead) {d : Local}, Unread candidate d (reads ++ rs) →
      Unread candidate (reads.foldl Local.applyRead d) rs := by
    intro reads
    induction reads with
    | nil => exact fun hd => hd
    | cons r reads ih => exact fun hd => ih hd.applyRead
  exact hfold c.reads (d := { c with reads := [] }) h

theorem Unread.maintain (hm : c.maxCost ≠ 0) (h : Unread candidate c (c.reads ++ rs)) :
    Unread candidate c.maintain rs := by
  intro k hk
  rw [count, counts_maintain hm]
  exact h.counted k hk

end Unread

/-- A call that looks none of the keys up leaves them unread, also when the tier is maintained. -/
theorem unread_respond {candidate : String → Prop} {c : Local} {call : LocalCall}
    (h : Unread candidate c c.reads) (hcall : ∀ k, call = .get k → ¬ candidate k) :
    Unread candidate (c.respond call).2 (c.respond call).2.reads ∧
      ∀ m ∈ c.upkeep call, m.1.maxCost ≠ 0 → ∀ k, candidate k → m.1.counted.count k = 0 := by
  have hset : ∀ key value cost, call = .set key value cost → c.maxCost ≠ 0 →
      Unread candidate (c.putting key value cost).1 c.reads := by
    intro key value cost _ _ k hk
    rw [count, (putting_frame c key value cost).2.2.2.2.2]
    exact h k hk
  refine ⟨respond_keeps (P := fun d rs _ => Unread candidate d rs) (fun _ _ _ _ _ hd => hd) hset
    (fun _ _ _ _ => h) (fun _ _ hm _ hd => hd.maintain hm) h
    fun key hkey _ k hk => ⟨(h k hk).1, fun r hr => ?_⟩, ?_⟩
  · rcases List.mem_append.1 hr with hr | hr
    · exact (h k hk).2 r hr
    · rw [List.mem_singleton.1 hr]
      rintro rfl
      exact hcall _ hkey hk
  · intro m hmem hm k hk
    have hunread := upkeep_keeps (P := fun d rs _ => Unread candidate d rs) (fun _ _ _ _ _ hd => hd)
      hset (fun _ _ _ _ => h) (fun _ _ hm _ hd => hd.maintain hm) h m hmem hm
    rw [← List.append_nil m.1.reads] at hunread
    exact (hunread.counted k hk).1

/-- Keys that no call has looked up are unread. -/
theorem unread_afterCalls (sizing : Sizing) (calls : List LocalCall) :
    Unread (fun k => LocalCall.get k ∉ calls) (afterCalls sizing calls) (afterCalls sizing calls).reads := by
  induction calls using List.reverseRecOn with
  | nil => exact fun k _ => ⟨rfl, fun r hr => nomatch hr⟩
  | append_singleton calls call ih =>
    rw [afterCalls_concat]
    have hfewer : Unread (fun k => LocalCall.get k ∉ calls ++ [call]) (afterCalls sizing calls)
        (afterCalls sizing calls).reads :=
      fun k hk => ih k fun hmem => hk (List.mem_append_left _ hmem)
    refine (unread_respond hfewer fun k hcall hk => hk ?_).1
    exact hcall ▸ List.mem_append_right calls (List.mem_singleton.2 rfl)

/-! ### Runs of calls -/

/-- Calls that leave a key its place: none of them writes it, none raises the cost of a key that is found,
and whenever the tier is maintained no key has been looked up more often, as far as counted. -/
structure Spares (key : String) (c : Local) (calls : List LocalCall) : Prop where
  kept {call : LocalCall} : call ∈ calls → call.writes key = false
  cheaper {before after : List LocalCall} {k : String} {value : ByteArray} {cost : Nat} {e : Entry} :
    calls = before ++ .set k value cost :: after →
    Keyed.get? (Program.after respond before c).entries k = some e → min cost greatestCost ≤ e.cost
  rarer {before after : List LocalCall} {call : LocalCall} {m : Local × List LoggedWrite} :
    calls = before ++ call :: after → m ∈ (Program.after respond before c).upkeep call →
    ∀ k, m.1.counted.count k ≤ m.1.counted.count key

theorem Spares.nil (key : String) (c : Local) : Spares key c [] where
  kept h := nomatch h
  cheaper h := by simp at h
  rarer h := by simp at h

theorem Spares.cons {key : String} {c : Local} {call : LocalCall} {calls : List LocalCall}
    (hkept : call.writes key = false)
    (hcheaper : ∀ k value cost e, call = .set k value cost → Keyed.get? c.entries k = some e →
      min cost greatestCost ≤ e.cost)
    (hrarer : ∀ m ∈ c.upkeep call, ∀ k, m.1.counted.count k ≤ m.1.counted.count key)
    (h : Spares key (c.respond call).2 calls) : Spares key c (call :: calls) where
  kept hmem := by
    rcases List.mem_cons.1 hmem with rfl | hmem
    · exact hkept
    · exact h.kept hmem
  cheaper {before _ _ _ _ _} hsplit he := by
    cases before with
    | nil => exact hcheaper _ _ _ _ (List.cons.inj hsplit).1 he
    | cons first before =>
      obtain ⟨hfirst, hrest⟩ := List.cons.inj hsplit
      subst hfirst
      exact h.cheaper hrest he
  rarer {before _ _ _} hsplit hm := by
    cases before with
    | nil =>
      obtain ⟨rfl, -⟩ := List.cons.inj hsplit
      exact hrarer _ hm
    | cons first before =>
      obtain ⟨hfirst, hrest⟩ := List.cons.inj hsplit
      subst hfirst
      exact h.rarer hrest hm

/-- Calls that set keys once each which are not found and have never been looked up, whatever the costs;
the tier may be maintained in between. -/
structure SingleUse (earlier : List LocalCall) (c : Local) (calls : List LocalCall) : Prop where
  fresh {call : LocalCall} : call ∈ calls → call = .flush ∨
    ∃ k value cost, call = .set k value cost ∧ c.find? k = none ∧ .get k ∉ earlier
  once : calls.Pairwise fun call later => ∀ k, call.sets k = true → later.sets k = false

/-- The value is found under the key, and its entry is admitted. -/
def Admits (c : Local) (key : String) (value : ByteArray) : Prop :=
  c.find? key = some value ∧ ∃ r ∈ c.residents, r.key = key ∧ c.holds r = true

theorem not_found_of_never_set {c : Local} {k : String} {calls : List LocalCall}
    (hnever : ∀ call ∈ calls, call.sets k = false) (h : Keyed.get? c.entries k = none) :
    Keyed.get? (Program.after respond calls c).entries k = none := by
  induction calls generalizing c with
  | nil => exact h
  | cons call calls ih =>
    refine ih (fun later hlater => hnever later (List.mem_cons_of_mem call hlater)) ?_
    refine Option.eq_none_iff_forall_ne_some.2 fun e he => ?_
    rcases entry_of_respond he with ⟨cost, rfl, -⟩ | ⟨hbefore, -⟩
    · have hset := hnever _ List.mem_cons_self
      simp [LocalCall.sets] at hset
    · rw [h] at hbefore
      cases hbefore

theorem kept_after {c : Local} (hkept : Kept c c.reads c.writes) (calls : List LocalCall) :
    Kept (Program.after respond calls c) (Program.after respond calls c).reads
      (Program.after respond calls c).writes :=
  Program.after_induction (P := fun d : Local => Kept d d.reads d.writes)
    (fun call _ h => kept_respond call h) hkept calls

section Runs

variable {key : String} {e₀ : Entry} {c : Local} {calls before after : List LocalCall}

theorem Spares.guarded (hs : Spares key c calls) (hkept : Kept c c.reads c.writes)
    (h : Guarded (fun _ => True) True key e₀ c c.writes) (hsplit : calls = before ++ after) :
    Guarded (fun _ => True) True key e₀ (Program.after respond before c)
      (Program.after respond before c).writes := by
  induction before using List.reverseRecOn generalizing after with
  | nil => exact h
  | append_singleton before call ih =>
    rw [List.append_assoc, List.singleton_append] at hsplit
    rw [Program.after_append]
    refine guarded_respond (kept_after hkept before) (ih hsplit) (hs.kept (hsplit ▸ by simp))
      (fun k value cost hcall => ⟨trivial, fun e he => ⟨trivial, ?_⟩⟩)
      fun m hm _ k _ => hs.rarer hsplit hm k
    exact hs.cheaper (hcall ▸ hsplit) he

theorem SingleUse.guarded {earlier : List LocalCall} (hs : SingleUse earlier c calls)
    (hm : c.maxCost ≠ 0) (hkept : Kept c c.reads c.writes)
    (hunread : Unread (fun k => .get k ∉ earlier) c c.reads)
    (h : Guarded (fun k => .get k ∉ earlier) False key e₀ c c.writes) (hsplit : calls = before ++ after) :
    Guarded (fun k => .get k ∉ earlier) False key e₀ (Program.after respond before c)
        (Program.after respond before c).writes ∧
      Unread (fun k => .get k ∉ earlier) (Program.after respond before c)
        (Program.after respond before c).reads := by
  have hgone : ∀ {k}, c.find? k = none → Keyed.get? c.entries k = none := by
    intro k hk
    simp only [find?] at hk
    rw [if_neg hm] at hk
    exact Option.map_eq_none_iff.1 hk
  induction before using List.reverseRecOn generalizing after with
  | nil => exact ⟨h, hunread⟩
  | append_singleton before call ih =>
    rw [List.append_assoc, List.singleton_append] at hsplit
    obtain ⟨hguarded, hunread⟩ := ih hsplit
    rw [Program.after_append]
    have hmem : call ∈ calls := hsplit ▸ by simp
    have hcall := hs.fresh hmem
    have hlook : ∀ k, call = .get k → ¬.get k ∉ earlier := by
      intro k hget
      rcases hcall with rfl | ⟨_, _, _, rfl, -⟩ <;> cases hget
    obtain ⟨hstill, hzero⟩ := unread_respond hunread hlook
    refine ⟨guarded_respond (kept_after hkept before) hguarded ?_ ?_ fun m hmem hm' k hk => ?_, hstill⟩
    · rcases hcall with rfl | ⟨k, value, cost, rfl, hnone, -⟩
      · rfl
      · refine decide_eq_false fun heq => ?_
        have hfound := h.found
        rw [← heq, hgone hnone] at hfound
        cases hfound
    · rintro k value cost rfl
      rcases hcall with hcall | ⟨k', _, _, hcall, hnone, hnever⟩
      · cases hcall
      · obtain ⟨rfl, -, -⟩ := LocalCall.set.inj hcall
        refine ⟨hnever, fun e he => ?_⟩
        have honce := (List.pairwise_append.1 (hsplit ▸ hs.once)).2.2
        rw [not_found_of_never_set (fun b hb => ?_) (hgone hnone)] at he
        · cases he
        · refine Bool.eq_false_iff.2 fun hset => ?_
          have hother := honce b hb _ List.mem_cons_self k hset
          simp [LocalCall.sets] at hother
    · rw [hzero m hmem hm' k hk]
      exact Nat.zero_le _

end Runs

/-- Where no writes wait what is found is guarded. -/
theorem Kept.guarded {candidate : String → Prop} {resets : Prop} {key : String} {e₀ : Entry} {c : Local}
    (hkept : Kept c c.reads c.writes) (hidle : c.writes = [])
    (hfound : Keyed.get? c.entries key = some e₀)
    (hbudget : resets → ∀ k e, Keyed.get? c.entries k = some e → e.cost ≤ c.maxCost) :
    Guarded candidate resets key e₀ c c.writes := by
  obtain ⟨⟨keyOf, hplaced⟩, hwithin⟩ := hkept
  rw [hidle] at hplaced ⊢
  have hadmitted : c.isResident e₀.life = true := by
    rcases hplaced.entry_waits hfound with hresident | ⟨_, hwaits⟩
    · exact hresident
    · cases hwaits
  exact
    { found := hfound
      admitted := hadmitted
      within := by
        rcases hwithin hidle with hin | hnone
        · exact hin
        · obtain ⟨r, hr, -⟩ := isResident_iff.1 hadmitted
          rw [hnone] at hr
          cases hr
      candidates := fun hw => nomatch hw
      entry_le := fun _ hw => nomatch hw
      resident_le := fun hresets he _ => hbudget hresets _ _ he
      put_le := fun hw => nomatch hw
      lowers := .nil }

theorem Guarded.admits {candidate : String → Prop} {resets : Prop} {key : String} {e₀ : Entry} {c : Local}
    (h : Guarded candidate resets key e₀ c c.writes) (hkept : Kept c c.reads c.writes)
    (hm : c.maxCost ≠ 0) : c.Admits key e₀.value := by
  obtain ⟨⟨keyOf, hplaced⟩, -⟩ := hkept
  refine ⟨?_, ⟨key, e₀.life⟩, hplaced.mem_residents (hplaced.entry_life h.found).1 h.admitted, rfl,
    holds_iff.2 ⟨e₀, h.found, rfl⟩⟩
  simp only [find?]
  rw [if_neg hm, h.found, Option.map_some]

/-- **Keys of single use do not displace keys that are looked up.**  Where no writes wait, as right after
maintenance, a key that is found is admitted, and stays so with its value, through any calls that leave it
its place, if no entry costs more than the whole budget at the start; and through any calls of single use,
whatever the entries cost. -/
theorem looked_up_keys_stay (sizing : Sizing) (earlier : List LocalCall)
    (hidle : (afterCalls sizing earlier).writes = []) {key : String} {value : ByteArray}
    (hfound : (afterCalls sizing earlier).find? key = some value) {calls : List LocalCall}
    (hcalls : (∀ k e, Keyed.get? (afterCalls sizing earlier).entries k = some e →
        e.cost ≤ sizing.maxCost) ∧ Spares key (afterCalls sizing earlier) calls ∨
      SingleUse earlier (afterCalls sizing earlier) calls) :
    ∀ before after, calls = before ++ after →
      (Program.after respond before (afterCalls sizing earlier)).Admits key value := by
  intro before after hsplit
  obtain ⟨c, hc⟩ : ∃ c, c = afterCalls sizing earlier := ⟨_, rfl⟩
  have hmax : c.maxCost = sizing.maxCost := hc ▸ maxCost_afterCalls sizing earlier
  have hkept : Kept c c.reads c.writes := hc ▸ kept_afterCalls sizing earlier
  rw [← hc] at hidle hfound hcalls ⊢
  simp only [find?] at hfound
  split at hfound
  · cases hfound
  · rename_i hm
    obtain ⟨e₀, he, rfl⟩ := Option.map_eq_some_iff.1 hfound
    have hm' : (Program.after respond before c).maxCost ≠ 0 := by
      rw [Program.after_induction (P := fun d : Local => d.maxCost = c.maxCost)
        (fun call d hd => (maxCost_respond call d).trans hd) rfl before]
      exact hm
    rcases hcalls with ⟨hbudget, hspares⟩ | hsingle
    · have hstart : Guarded (fun _ => True) True key e₀ c c.writes :=
        hkept.guarded hidle he fun _ k e => hmax ▸ hbudget k e
      exact (hspares.guarded hkept hstart hsplit).admits (kept_after hkept before) hm'
    · have hstart : Guarded (fun k => .get k ∉ earlier) False key e₀ c c.writes :=
        hkept.guarded hidle he False.elim
      have hunread : Unread (fun k => LocalCall.get k ∉ earlier) c c.reads :=
        hc ▸ unread_afterCalls sizing earlier
      obtain ⟨hguarded, -⟩ := hsingle.guarded hm hkept hunread hstart hsplit
      exact hguarded.admits (kept_after hkept before) hm'

theorem count_le {c : Local} {n : Nat} (h : ∀ p ∈ c.counts, p.2 ≤ n) (k : String) : c.count k ≤ n := by
  simp only [count]
  cases hfound : Keyed.get? c.counts k with
  | none => exact Nat.zero_le n
  | some m => exact h _ (Keyed.mem_of_get?_eq_some hfound)

theorem rarer_of_no_upkeep {key : String} {c : Local} {call : LocalCall}
    (hempty : (c.upkeep call).isEmpty = true) :
    ∀ m ∈ c.upkeep call, ∀ k, m.1.counted.count k ≤ m.1.counted.count key := by
  intro m hm
  rw [List.isEmpty_iff.1 hempty] at hm
  cases hm

/-- Calls for a trial with a budget of eleven: a value is admitted and looked up twice. -/
def lookedUpTwice : List LocalCall :=
  [.set "h" plainValue 6, .set "x" plainValue 3, .flush, .get "h", .get "h", .flush]

/-- Calls that leave it its place: one value becomes cheaper, and one is refused. -/
def sparingCalls : List LocalCall := [.set "x" otherValue 2, .set "y" plainValue 5, .get "z", .flush]

/-- Calls that set new keys, the second of them at a cost of more than the whole budget. -/
def singleCalls : List LocalCall := [.set "u" plainValue 9, .set "v" plainValue 900, .flush]

theorem sparingCalls_spare : Spares "h" (afterCalls ⟨11, 100, 64⟩ lookedUpTwice) sparingCalls := by
  refine .cons rfl ?_ (rarer_of_no_upkeep (by decide +kernel)) (.cons rfl ?_
    (rarer_of_no_upkeep (by decide +kernel)) (.cons rfl (fun _ _ _ _ h => nomatch h)
      (rarer_of_no_upkeep (by decide +kernel)) (.cons rfl (fun _ _ _ _ h => nomatch h) ?_ (.nil _ _))))
  · rintro k value cost e ⟨⟩ he
    have hentries : ∀ p ∈ (afterCalls ⟨11, 100, 64⟩ lookedUpTwice).entries,
        min 2 greatestCost ≤ p.2.cost := by decide +kernel
    exact hentries _ (Keyed.mem_of_get?_eq_some he)
  · rintro k value cost e ⟨⟩ he
    have hnone : (Keyed.get? ((afterCalls ⟨11, 100, 64⟩ lookedUpTwice).respond
        (.set "x" otherValue 2)).2.entries "y").isNone = true := by decide +kernel
    rw [he] at hnone
    cases hnone
  · intro m hm k
    obtain rfl := List.mem_singleton.1 hm
    exact Nat.le_trans (count_le (n := 2) (by decide +kernel) k) (by decide +kernel)

theorem looked_up_keys_stay_in_trial :
    (afterCalls ⟨11, 100, 64⟩ lookedUpTwice).find? "h" = some plainValue ∧
    (Program.after respond sparingCalls (afterCalls ⟨11, 100, 64⟩ lookedUpTwice)).Admits "h" plainValue ∧
    (Program.after respond singleCalls (afterCalls ⟨11, 100, 64⟩ lookedUpTwice)).Admits "h" plainValue := by
  have hidle : (afterCalls ⟨11, 100, 64⟩ lookedUpTwice).writes = [] := by decide +kernel
  have hfound : (afterCalls ⟨11, 100, 64⟩ lookedUpTwice).find? "h" = some plainValue := by
    decide +kernel
  refine ⟨hfound, ?_, ?_⟩
  · refine looked_up_keys_stay ⟨11, 100, 64⟩ lookedUpTwice hidle hfound
      (.inl ⟨fun k e he => ?_, sparingCalls_spare⟩) _ [] (List.append_nil _).symm
    have hentries : ∀ p ∈ (afterCalls ⟨11, 100, 64⟩ lookedUpTwice).entries, p.2.cost ≤ 11 := by
      decide +kernel
    exact hentries _ (Keyed.mem_of_get?_eq_some he)
  · refine looked_up_keys_stay ⟨11, 100, 64⟩ lookedUpTwice hidle hfound (.inr ⟨fun {call} hcall => ?_, ?_⟩)
      _ [] (List.append_nil _).symm
    · have hnone : ∀ k ∈ ["u", "v"], (afterCalls ⟨11, 100, 64⟩ lookedUpTwice).find? k = none := by
        decide +kernel
      simp only [singleCalls, List.mem_cons, List.not_mem_nil, or_false] at hcall
      rcases hcall with rfl | rfl | rfl
      · exact .inr ⟨_, _, _, rfl, hnone "u" (by simp), by simp [lookedUpTwice]⟩
      · exact .inr ⟨_, _, _, rfl, hnone "v" (by simp), by simp [lookedUpTwice]⟩
      · exact .inl rfl
    · simp [singleCalls, LocalCall.sets]

/-- Calls in which the account has too little of a value that costs more than the whole budget. -/
def dearCalls : List LocalCall :=
  [.set "h" plainValue 5, .set "a" plainValue 20, .set "c" plainValue 30, .set "a" plainValue 110,
    .set "c" plainValue 80, .delete "c", .set "c" plainValue 120]

/-- After them that value is set again at the same cost, which the account does not take back in full: it
is over the budget, and a value goes that nothing has been looked up more often than. -/
theorem dear_value_displaces :
    (LocalCall.set "c" plainValue 120).Maintains ⟨100, 1000, 3⟩ dearCalls.dropLast ∧
      (afterCalls ⟨100, 1000, 3⟩ dearCalls).find? "h" = some plainValue ∧
      Spares "h" (afterCalls ⟨100, 1000, 3⟩ dearCalls) [.set "a" plainValue 110, .flush] ∧
      (Program.after respond [.set "a" plainValue 110, .flush]
        (afterCalls ⟨100, 1000, 3⟩ dearCalls)).find? "h" = none := by
  refine ⟨rfl, by decide +kernel, ?_, by decide +kernel⟩
  refine .cons rfl ?_ (rarer_of_no_upkeep (by decide +kernel))
    (.cons rfl (fun _ _ _ _ h => nomatch h) ?_ (.nil _ _))
  · rintro k value cost e ⟨⟩ he
    have hcost : (Keyed.get? (afterCalls ⟨100, 1000, 3⟩ dearCalls).entries "a").map (·.cost) =
        some 110 := by decide +kernel
    rw [he, Option.map_some] at hcost
    exact Nat.le_trans (Nat.min_le_left _ _) (Nat.le_of_eq (Option.some.inj hcost).symm)
  · intro m hm k
    obtain rfl := List.mem_singleton.1 hm
    exact Nat.le_trans (count_le (n := 0) (by decide +kernel) k) (Nat.zero_le _)

end Roster.Cache.Local
