import Roster.Proofs.Cache.Admitted

/-!
# The account of the local tier

What the account says right after maintenance: how many values can be found, and, as long as no admitted
entry goes while a change of its cost waits, exactly what they cost.

* `accounted` is what the account has of an entry, and `Linked` says that each waiting write starts from
  the cost that the one before it leaves.
* `Exact` says that the account is the sum of what it has of the admitted entries. `Exact.applyWrite` and
  `Exact.evictAll` keep it as long as the entries that go are `settled`.
* `account_exact` is the main result, and `account_drifts` a run in which an entry goes while a change of
  its cost waits.
-/

namespace Roster.Cache.Local

/-! ### Costs that wait -/

/-- What the account has of an entry: what the first waiting write of it says the cost was before, or the
last cost if none waits. -/
def accounted (last : Nat → Nat) (life : Nat) : List LoggedWrite → Nat
  | [] => last life
  | .put _ l _ oldCost _ :: ws => if l = life then oldCost else accounted last life ws
  | .removal _ _ :: ws => accounted last life ws

/-- Each waiting write of an entry leaves the cost that the next one starts from. -/
def Linked (last : Nat → Nat) : List LoggedWrite → Prop
  | [] => True
  | .put _ life _ _ cost :: ws => cost = accounted last life ws ∧ Linked last ws
  | .removal life cost :: ws => cost = accounted last life ws ∧ Linked last ws

/-- Whether a waiting write changes the cost of an entry. -/
def changing (life : Nat) : List LoggedWrite → Bool
  | [] => false
  | .put _ l _ oldCost cost :: ws => (l = life && oldCost ≠ cost) || changing life ws
  | .removal _ _ :: ws => changing life ws

section Waiting

variable {last : Nat → Nat} {life : Nat} {w : LoggedWrite} {ws : List LoggedWrite}

theorem Linked.tail (h : Linked last (w :: ws)) : Linked last ws := by
  cases w with
  | put => exact h.2
  | removal => exact h.2

theorem changing_tail (h : changing life (w :: ws) = false) : changing life ws = false := by
  cases w with
  | put => exact (Bool.or_eq_false_iff.1 h).2
  | removal => exact h

/-- A write that does not change the cost of an entry may as well have been taken account of. -/
theorem accounted_tail {key : String} {l write oldCost cost : Nat}
    (h : Linked last (.put key l write oldCost cost :: ws)) (hsame : l = life → oldCost = cost) :
    accounted last life (.put key l write oldCost cost :: ws) = accounted last life ws := by
  simp only [accounted]
  split
  · rename_i hlife
    subst hlife
    exact (hsame rfl).trans h.1
  · rfl

/-- The account is right about an entry if no change of its cost waits. -/
theorem accounted_of_settled (h : Linked last ws) (hsettled : changing life ws = false) :
    accounted last life ws = last life := by
  induction ws with
  | nil => rfl
  | cons w ws ih =>
    have hrest := ih h.tail (changing_tail hsettled)
    cases w with
    | removal => exact hrest
    | put key l write oldCost cost =>
      refine (accounted_tail h fun hlife => ?_).trans hrest
      simpa [changing, hlife] using (Bool.or_eq_false_iff.1 hsettled).1

/-- A removal that joins the waiting writes changes nothing for the account. -/
theorem accounted_removal (last : Nat → Nat) (life other cost : Nat) (ws : List LoggedWrite) :
    accounted last life (ws ++ [.removal other cost]) = accounted last life ws := by
  induction ws with
  | nil => rfl
  | cons w ws ih => cases w <;> simp only [List.cons_append, accounted, ih]

theorem Linked.removal (h : Linked last ws) : Linked last (ws ++ [.removal life (last life)]) := by
  induction ws with
  | nil => exact ⟨rfl, trivial⟩
  | cons w ws ih =>
    cases w with
    | put => exact ⟨h.1.trans (accounted_removal _ _ _ _ _).symm, ih h.2⟩
    | removal => exact ⟨h.1.trans (accounted_removal _ _ _ _ _).symm, ih h.2⟩

/-- The costs with a new one for an entry. -/
def recost (last : Nat → Nat) (life cost : Nat) : Nat → Nat := fun l => if l = life then cost else last l

/-- What the account has of an entry does not change when a new cost is logged, also for the entry that
it is the cost of. -/
theorem accounted_put (last : Nat → Nat) (key : String) (life write cost other : Nat)
    (ws : List LoggedWrite) :
    accounted (recost last life cost) other (ws ++ [.put key life write (last life) cost]) =
      accounted last other ws := by
  induction ws with
  | nil =>
    by_cases h : life = other
    · simp [accounted, h]
    · simp [accounted, recost, h, Ne.symm h]
  | cons w ws ih => cases w <;> simp only [List.cons_append, accounted, ih]

theorem Linked.put (h : Linked last ws) (key : String) (write cost : Nat) :
    Linked (recost last life cost) (ws ++ [.put key life write (last life) cost]) := by
  induction ws with
  | nil => exact ⟨by simp [accounted, recost], trivial⟩
  | cons w ws ih =>
    cases w with
    | put => exact ⟨h.1.trans (accounted_put _ _ _ _ _ _ _).symm, ih h.2⟩
    | removal => exact ⟨h.1.trans (accounted_put _ _ _ _ _ _ _).symm, ih h.2⟩

end Waiting

/-! ### The account -/

/-- The account is the sum of what it has of the admitted entries; `last` are the costs of all entries,
at the end of what waits. -/
structure Exact (last : Nat → Nat) (c : Local) (ws : List LoggedWrite) : Prop where
  entry_cost {key : String} {e : Entry} : Keyed.get? c.entries key = some e → last e.life = e.cost
  unborn {life : Nat} : c.lives ≤ life → last life = 0
  linked : Linked last ws
  spent_eq : c.spent = totalOf (fun r => accounted last r.life ws) c.residents

theorem exact_ofSizing (sizing : Sizing) : Exact (fun _ => 0) (ofSizing sizing) [] where
  entry_cost h := nomatch h
  unborn _ := rfl
  linked := trivial
  spent_eq := rfl

section Exact

variable {keyOf : Nat → String} {last : Nat → Nat} {c d : Local} {rs : List LoggedRead}
  {w : LoggedWrite} {ws : List LoggedWrite}

/-- The order of the admitted entries does not matter. -/
theorem Exact.of_perm (h : Exact last c ws)
    (hentries : ∀ {key e}, Keyed.get? d.entries key = some e → Keyed.get? c.entries key = some e)
    (hresidents : d.residents.Perm c.residents) (hlives : d.lives = c.lives)
    (hspent : d.spent = c.spent) : Exact last d ws where
  entry_cost he := h.entry_cost (hentries he)
  unborn hlife := h.unborn (hlives ▸ hlife)
  linked := h.linked
  spent_eq := by rw [hspent, h.spent_eq, totalOf_perm _ hresidents]

theorem Exact.spent_split (hplaced : Placed keyOf c rs ws) (h : Exact last c ws) {r : Resident}
    (hr : r ∈ c.residents) :
    c.spent = accounted last r.life ws +
      totalOf (fun x => accounted last x.life ws) (c.residents.filter (·.life ≠ r.life)) := by
  rw [h.spent_eq, totalOf_perm _ (filter_life_perm hplaced.lives_apart hr)]
  rfl

/-- What is evicted takes the cost with it that the account has of it, if no change of that waits. -/
theorem Exact.evict (hplaced : Placed keyOf c rs ws) (h : Exact last c ws) {r : Resident}
    (hr : r ∈ c.residents) (hsettled : c.holds r = true → changing r.life ws = false) :
    Exact last (c.evict r) ws := by
  by_cases hholds : c.holds r = true
  · obtain ⟨e, he, hlife⟩ := holds_iff.1 hholds
    have hcost : accounted last r.life ws = e.cost := by
      rw [accounted_of_settled h.linked (hsettled hholds), ← hlife]
      exact h.entry_cost he
    have hspent := h.spent_split hplaced hr
    rw [hcost] at hspent
    refine ⟨fun he' => h.entry_cost ((shrinks_evict c r).entry_before he'), fun hlife => ?_, h.linked, ?_⟩
    · rw [(admission_evict c r).frame.2.1] at hlife
      exact h.unborn hlife
    · rw [evict_of_holds he hlife]
      show c.spent - e.cost = totalOf _ (c.residents.filter (·.life ≠ r.life))
      omega
  · rw [evict_of_not_holds (Bool.eq_false_iff.2 hholds)]
    exact h

theorem Exact.evictAll (hplaced : Placed keyOf c rs ws) (h : Exact last c ws) {gone : List Resident}
    (hold : gone.Sublist c.residents)
    (hsettled : ∀ r ∈ gone, c.holds r = true → changing r.life ws = false) :
    Exact last (gone.foldl Local.evict c) ws := by
  have hapart : (gone.map (·.life)).Nodup := hplaced.lives_apart.sublist (hold.map _)
  have hmem : ∀ r ∈ gone, r ∈ c.residents := fun r hr => hold.mem hr
  clear hold
  induction gone generalizing c with
  | nil => exact h
  | cons r gone ih =>
    obtain ⟨hfirst, hrest⟩ := List.nodup_cons.1 hapart
    have hne : ∀ x ∈ gone, x.life ≠ r.life := fun x hx heq => hfirst (List.mem_map.2 ⟨x, hx, heq⟩)
    refine ih (hplaced.evict r) (h.evict hplaced (hmem r List.mem_cons_self)
      (hsettled r List.mem_cons_self)) (fun x hx hholds => ?_) hrest fun x hx => ?_
    · exact hsettled x (List.mem_cons_of_mem r hx) ((shrinks_evict c r).holds_before hholds)
    · exact mem_residents_evict_of_ne (hmem x (List.mem_cons_of_mem r hx)) (hne x hx)

/-- What goes has no change of its cost waiting if no entry that has one goes. -/
theorem Exact.evictAll_of_keeps (hplaced : Placed keyOf c rs ws) (h : Exact last c ws)
    {gone : List Resident} (hold : gone.Sublist c.residents)
    (hkeeps : ∀ r ∈ c.residents, changing r.life ws = true →
      (gone.foldl Local.evict c).holds r = true) :
    Exact last (gone.foldl Local.evict c) ws := by
  refine h.evictAll hplaced hold fun r hr _ => Bool.eq_false_iff.2 fun hchanging => ?_
  have hholds := hkeeps r (hold.mem hr) hchanging
  rw [holds_evictAll hr] at hholds
  cases hholds

/-! ### Maintenance -/

/-- A waiting write has been taken account of if it changes nothing that the account has. -/
theorem Exact.drop (h : Exact last c (w :: ws))
    (hsame : ∀ r ∈ c.residents, accounted last r.life (w :: ws) = accounted last r.life ws) :
    Exact last c ws where
  entry_cost := h.entry_cost
  unborn := h.unborn
  linked := h.linked.tail
  spent_eq := h.spent_eq.trans (totalOf_congr hsame)

theorem Exact.leave {life cost : Nat} (hplaced : Placed keyOf c rs (.removal life cost :: ws))
    (h : Exact last c (.removal life cost :: ws)) (hresident : c.isResident life = true) :
    Exact last (c.leave life cost) ws := by
  obtain ⟨r, hr, rfl⟩ := isResident_iff.1 hresident
  have hspent : c.spent = accounted last r.life ws +
      totalOf (fun x => accounted last x.life ws) (c.residents.filter (·.life ≠ r.life)) :=
    h.spent_split hplaced hr
  refine ⟨h.entry_cost, h.unborn, h.linked.tail, ?_⟩
  show c.spent - cost = totalOf _ (c.residents.filter (·.life ≠ r.life))
  have hcost := h.linked.1
  omega

theorem Exact.renew {key : String} {life write oldCost cost : Nat}
    (hplaced : Placed keyOf c rs (.put key life write oldCost cost :: ws))
    (h : Exact last c (.put key life write oldCost cost :: ws)) (hkey : keyOf life = key)
    (hresident : c.isResident life = true) :
    Exact last ({ c with spent := c.spent - oldCost + cost }.renew key life) ws := by
  have hothers : totalOf (fun r => accounted last r.life (.put key life write oldCost cost :: ws))
      (c.residents.filter (·.life ≠ life)) =
      totalOf (fun r => accounted last r.life ws) (c.residents.filter (·.life ≠ life)) := by
    refine totalOf_congr fun r hr => accounted_tail h.linked fun hlife => ?_
    exact absurd hlife.symm (of_decide_eq_true (List.mem_filter.1 hr).2)
  have hspent := h.spent_split hplaced (hplaced.mem_residents hkey hresident)
  rw [hothers] at hspent
  refine ⟨h.entry_cost, h.unborn, h.linked.tail, ?_⟩
  show c.spent - oldCost + cost = totalOf _ (c.residents.filter (·.life ≠ life) ++ [⟨key, life⟩])
  simp only [totalOf_append, totalOf, ← h.linked.1, Nat.add_zero]
  simp only [accounted, if_true] at hspent
  omega

/-- The account has nothing of an entry that is not admitted, so a write of it may as well have been
taken account of. -/
theorem Exact.drop_put {key : String} {life write oldCost cost : Nat}
    (h : Exact last c (.put key life write oldCost cost :: ws)) (hresident : c.isResident life = false) :
    Exact last c ws :=
  h.drop fun r hr => accounted_tail h.linked fun hlife =>
    absurd (isResident_iff.2 ⟨r, hr, hlife.symm⟩) (Bool.eq_false_iff.1 hresident)

theorem Exact.enter {key : String} {life write oldCost cost : Nat}
    (h : Exact last c (.put key life write oldCost cost :: ws)) (hresident : c.isResident life = false) :
    Exact last (c.enter key life cost) ws := by
  refine ⟨h.entry_cost, h.unborn, h.linked.tail, ?_⟩
  show c.spent + cost = totalOf _ (c.residents ++ [⟨key, life⟩])
  simp only [totalOf_append, totalOf, ← h.linked.1, Nat.add_zero]
  rw [(h.drop_put hresident).spent_eq]

/-- Taking account of a write keeps the account exact if no admitted entry goes by it that has a change of
its cost waiting. -/
theorem Exact.applyWrite (hplaced : Placed keyOf c rs (w :: ws)) (h : Exact last c (w :: ws))
    (hkeeps : ∀ r ∈ c.residents, changing r.life (w :: ws) = true → (c.applyWrite w).holds r = true) :
    Exact last (c.applyWrite w) ws := by
  have happlied := applied_applyWrite c w
  generalize c.applyWrite w = d at happlied hkeeps ⊢
  cases happlied with
  | left hresident => exact h.leave hplaced hresident
  | gone hresident => exact h.drop fun _ _ => rfl
  | @missed key life write oldCost cost hother =>
    refine h.drop fun r hr => accounted_tail h.linked fun hlife => ?_
    obtain ⟨hkey, -⟩ := hplaced.put_life List.mem_cons_self
    obtain ⟨hkey', -⟩ := hplaced.resident_life hr
    have hgone : ¬ c.holds r = true := fun hholds => by
      obtain ⟨e, he, hlife'⟩ := holds_iff.1 hholds
      refine hother e ?_ (hlife'.trans hlife.symm)
      rw [← hkey, hlife, hkey']
      exact he
    have hsettled := Bool.eq_false_iff.2 fun hchanging => hgone (hkeeps r hr hchanging)
    simpa [changing, hlife] using (Bool.or_eq_false_iff.1 hsettled).1
  | renewed hfound hresident => exact h.renew hplaced (hplaced.entry_life hfound).1 hresident
  | entered hfound hresident => exact h.enter hresident
  | @displaced key e write oldCost cost gone hfound hresident _ hold =>
    exact (h.evictAll_of_keeps hplaced hold hkeeps).enter (isResident_evictAll gone hresident)
  | @refused key e write oldCost cost hfound hresident =>
    have hframe : (c.refuse key write).residents = c.residents ∧
        (c.refuse key write).spent = c.spent := by
      simp only [refuse]
      split
      · split <;> exact ⟨rfl, rfl⟩
      · exact ⟨rfl, rfl⟩
    exact (h.drop_put hresident).of_perm (shrinks_refuse c key write).entry_before (by rw [hframe.1])
      (admission_refuse c key write).frame.2.1 hframe.2

/-- Taking account of waiting writes and keeping to the budget loses no admitted entry while a change of
its cost waits; `coming` is logged only afterwards. -/
def keepsChanging (coming : List LoggedWrite) (c : Local) : List LoggedWrite → Bool
  | [] => c.residents.all fun r => !changing r.life coming || c.startCounting.keepBudget.holds r
  | w :: ws =>
    (c.residents.all fun r => !changing r.life (w :: ws ++ coming) || (c.applyWrite w).holds r) &&
      keepsChanging coming (c.applyWrite w) ws

/-- In a run of calls no admitted entry goes while a change of its cost waits. -/
def settles (c : Local) : List LocalCall → Bool
  | [] => true
  | call :: calls =>
    ((c.upkeep call).all fun m => keepsChanging m.2 m.1.counted m.1.writes) &&
      settles (c.respond call).2 calls

theorem of_keeps {residents : List Resident} {p q : Resident → Bool}
    (h : (residents.all fun r => !p r || q r) = true) : ∀ r ∈ residents, p r = true → q r = true := by
  intro r hr hp
  simpa [hp] using List.all_eq_true.1 h r hr

theorem Exact.applyWrites {writes : List LoggedWrite} (hplaced : Placed keyOf c rs (writes ++ ws))
    (h : Exact last c (writes ++ ws)) (hkeeps : keepsChanging ws c writes = true) :
    Exact last (writes.foldl Local.applyWrite c) ws ∧
      keepsChanging ws (writes.foldl Local.applyWrite c) [] = true := by
  induction writes generalizing c with
  | nil => exact ⟨h, hkeeps⟩
  | cons w writes ih =>
    obtain ⟨hfirst, hrest⟩ := (Bool.and_eq_true_iff).1 hkeeps
    exact ih hplaced.applyWrite (h.applyWrite hplaced (of_keeps hfirst)) hrest

theorem Exact.startCounting (h : Exact last c ws) : Exact last c.startCounting ws := by
  simp only [Local.startCounting]
  split
  · exact h.of_perm (fun he => he) (.refl _) rfl rfl
  · exact h

theorem Exact.keepBudget (hplaced : Placed keyOf c rs ws) (h : Exact last c ws)
    (hkeeps : ∀ r ∈ c.residents, changing r.life ws = true → c.keepBudget.holds r = true) :
    Exact last c.keepBudget ws := by
  obtain ⟨gone, hold, heq⟩ := shrink_eq (c.spent - c.maxCost) c c.residents
  rw [Local.keepBudget, heq] at hkeeps ⊢
  exact h.evictAll_of_keeps hplaced hold hkeeps

theorem Exact.maintain (hm : c.maxCost ≠ 0) (hplaced : Placed keyOf c (c.reads ++ rs) (c.writes ++ ws))
    (h : Exact last c (c.writes ++ ws)) (hkeeps : keepsChanging ws c.counted c.writes = true) :
    Exact last c.maintain ws := by
  obtain ⟨hcounted, hperm⟩ := hplaced.counted
  have hread : Exact last c.counted (c.writes ++ ws) := by
    refine h.of_perm (fun he => ?_) hperm (by rw [counted_eq]) (by rw [counted_eq])
    rwa [counted_eq] at he
  obtain ⟨hwritten, hkeeps⟩ := hread.applyWrites hcounted hkeeps
  rw [maintain_eq hm]
  refine hwritten.startCounting.keepBudget hcounted.applyWrites.startCounting fun r hr => ?_
  refine of_keeps hkeeps r ?_
  simp only [Local.startCounting] at hr
  split at hr <;> exact hr

/-! ### Calls -/

/-- A new value is logged with the cost that the account will have of its entry by then. -/
theorem Exact.put (h : Exact last c ws) {key : String} {life lives : Nat} (hlife : life < lives)
    (hlives : c.lives ≤ lives)
    (hother : ∀ {k e}, Keyed.get? c.entries k = some e → k ≠ key → e.life ≠ life)
    (value : ByteArray) (write cost : Nat) :
    Exact (recost last life cost)
      { c with entries := Keyed.put c.entries key ⟨value, cost, life, write⟩, lives := lives }
      (ws ++ [.put key life write (last life) cost]) where
  entry_cost {k e} he := by
    rw [Keyed.get?_put] at he
    split at he
    · obtain rfl := Option.some.inj he
      exact if_pos rfl
    · rename_i hne
      exact (if_neg (hother he (Ne.symm hne))).trans (h.entry_cost he)
  unborn {l} hl :=
    (if_neg (Nat.ne_of_gt (Nat.lt_of_lt_of_le hlife hl))).trans (h.unborn (Nat.le_trans hlives hl))
  linked := h.linked.put key write cost
  spent_eq := h.spent_eq.trans (totalOf_congr fun r _ => (accounted_put last key life write cost _ ws).symm)

theorem Exact.putting (hplaced : Placed keyOf c rs ws) (h : Exact last c ws) (key : String)
    (value : ByteArray) (cost : Nat) :
    ∃ last', Exact last' (c.putting key value cost).1 (ws ++ [(c.putting key value cost).2]) := by
  cases hfound : Keyed.get? c.entries key with
  | none =>
    refine ⟨recost last c.lives (min cost greatestCost), ?_⟩
    simp only [Local.putting, hfound]
    rw [← h.unborn (Nat.le_refl c.lives)]
    exact h.put (Nat.lt_succ_self _) (Nat.le_succ _)
      (fun he _ => Nat.ne_of_lt (hplaced.entry_life he).2) value _ _
  | some e =>
    refine ⟨recost last e.life (min cost greatestCost), ?_⟩
    simp only [Local.putting, hfound]
    rw [← h.entry_cost hfound]
    refine h.put (hplaced.entry_life hfound).2 (Nat.le_refl _) (fun he' hne hlife => hne ?_) value _ _
    rw [← (hplaced.entry_life he').1, hlife, (hplaced.entry_life hfound).1]

theorem Exact.delete (h : Exact last c ws) {key : String} {e : Entry}
    (hfound : Keyed.get? c.entries key = some e) :
    Exact last { c with entries := Keyed.erase c.entries key } (ws ++ [.removal e.life e.cost]) where
  entry_cost he := h.entry_cost (Keyed.get?_erase_eq_some.1 he).2
  unborn := h.unborn
  linked := by
    rw [← h.entry_cost hfound]
    exact h.linked.removal
  spent_eq := h.spent_eq.trans (totalOf_congr fun r _ => (accounted_removal last r.life _ _ ws).symm)

end Exact

theorem exact_respond {c : Local} {call : LocalCall} (hkept : Kept c c.reads c.writes)
    (h : ∃ last, Exact last c c.writes)
    (hsettles : ∀ m ∈ c.upkeep call, keepsChanging m.2 m.1.counted m.1.writes = true) :
    ∃ last, Exact last (c.respond call).2 (c.respond call).2.writes := by
  obtain ⟨last, hexact⟩ := h
  refine (respond_keeps (P := fun d rs ws => Kept d rs ws ∧ ∃ last, Exact last d ws)
    ?_ ?_ ?_ ?_ ⟨hkept, last, hexact⟩ fun key _ _ => ⟨hkept.get key, last, hexact⟩).2
  · rintro d rs ws reads writes written hits misses ⟨hd, last, hexact⟩
    exact ⟨hd.same _ _ _ _ _, last, hexact.of_perm (fun he => he) (.refl _) rfl rfl⟩
  · intro key value cost _ hm
    obtain ⟨⟨keyOf, hplaced⟩, -⟩ := id hkept
    exact ⟨hkept.putting hm key value cost, hexact.putting hplaced key value cost⟩
  · intro key e _ hfound
    exact ⟨hkept.delete hfound, last, hexact.delete hfound⟩
  · rintro m hmem hm rs ⟨hd, last, hexact⟩
    obtain ⟨⟨keyOf, hplaced⟩, -⟩ := id hd
    exact ⟨hd.maintain hm, last, hexact.maintain hm hplaced (hsettles m hmem)⟩

/-- As long as no admitted entry goes while a change of its cost waits, the account is exact. -/
theorem exact_after {c : Local} (hkept : Kept c c.reads c.writes) (h : ∃ last, Exact last c c.writes)
    {calls : List LocalCall} (hsettles : settles c calls = true) :
    ∃ last, Exact last (Program.after respond calls c) (Program.after respond calls c).writes := by
  induction calls generalizing c with
  | nil => exact h
  | cons call calls ih =>
    obtain ⟨hfirst, hrest⟩ := Bool.and_eq_true_iff.1 hsettles
    exact ih (kept_respond call hkept) (exact_respond hkept h (List.all_eq_true.1 hfirst)) hrest

/-- Where no writes wait an exact account is what the entries cost that are found. -/
theorem Exact.spent_of_idle {keyOf : Nat → String} {last : Nat → Nat} {c : Local} {rs : List LoggedRead}
    (hplaced : Placed keyOf c rs []) (h : Exact last c []) {cost : String → Nat}
    (hcost : ∀ {key e}, Keyed.get? c.entries key = some e → e.cost = cost key) :
    c.spent = totalOf cost (c.residents.map (·.key)) := by
  rw [h.spent_eq, totalOf_map]
  refine totalOf_congr fun r hr => ?_
  obtain ⟨e, he, hlife⟩ := hplaced.there hr
  calc accounted last r.life [] = last e.life := congrArg last hlife.symm
    _ = e.cost := h.entry_cost he
    _ = cost r.key := hcost he

/-- **Right after maintenance the account is right.**  The number of admitted entries is the number of keys
that are found; and unless an admitted entry has gone while a change of its cost waited, the account is
the sum of what they cost when they were set last, and neither it nor any of them is over the budget. -/
theorem account_exact (sizing : Sizing) (calls : List LocalCall) (call : LocalCall)
    (hends : call.Maintains sizing calls) :
    ∃ keys : List String, keys.Nodup ∧
      (∀ key, key ∈ keys ↔ ((afterCalls sizing (calls ++ [call])).find? key).isSome = true) ∧
      (afterCalls sizing (calls ++ [call])).residents.length = keys.length ∧
      (settles (ofSizing sizing) (calls ++ [call]) = true →
        ∃ cost : String → Nat,
          (∀ key value, (afterCalls sizing (calls ++ [call])).find? key = some value →
            LocalCall.Latest key value (cost key) (calls ++ [call])) ∧
          (afterCalls sizing (calls ++ [call])).spent =
            totalOf (fun key => min (cost key) greatestCost) keys ∧
          (afterCalls sizing (calls ++ [call])).spent ≤ sizing.maxCost ∧
          ∀ key ∈ keys, min (cost key) greatestCost ≤ sizing.maxCost) := by
  obtain ⟨c, hc⟩ : ∃ c, c = afterCalls sizing (calls ++ [call]) := ⟨_, rfl⟩
  have hmax : c.maxCost = sizing.maxCost := hc ▸ maxCost_afterCalls sizing _
  obtain ⟨⟨keyOf, hplaced⟩, hwithin⟩ : Kept c c.reads c.writes := hc ▸ kept_afterCalls sizing _
  have hidle : c.writes = [] := by
    by_cases hm : sizing.maxCost = 0
    · exact (hplaced.idle (hmax.trans hm)).2
    · exact hc ▸ (idle_of_maintains hm hends).2
  have hfound : ∀ key, (c.find? key).isSome = (Keyed.get? c.entries key).isSome := by
    intro key
    simp only [find?]
    split
    · rename_i hm
      rw [(hplaced.idle hm).1]
      rfl
    · rw [Option.isSome_map]
  rw [hidle] at hplaced
  obtain ⟨hapart, hkeys⟩ := hplaced.residents_keys
  rw [← hc]
  refine ⟨c.residents.map (·.key), hapart, fun key => ?_, (List.length_map _).symm, fun hsettles => ?_⟩
  · rw [hfound, hkeys]
  · obtain ⟨last, hexact⟩ : ∃ last, Exact last c c.writes :=
      hc ▸ exact_after (c := ofSizing sizing) ⟨⟨keyOf, placed_ofSizing sizing⟩, fun _ => .inr rfl⟩
        ⟨_, exact_ofSizing sizing⟩ hsettles
    rw [hidle] at hexact
    have hlatest : ∀ key, ∃ cost, ∀ e, Keyed.get? c.entries key = some e →
        LocalCall.Latest key e.value cost (calls ++ [call]) ∧ e.cost = min cost greatestCost := by
      intro key
      cases he : Keyed.get? c.entries key with
      | none =>
        refine ⟨0, fun e h => ?_⟩
        cases h
      | some e =>
        obtain ⟨-, cost, hlatest, hcost⟩ := entry_latest (hc ▸ he)
        exact ⟨cost, fun e' h => Option.some.inj h ▸ ⟨hlatest, hcost⟩⟩
    obtain ⟨cost, hcost⟩ := Classical.axiomOfChoice hlatest
    have hspent : c.spent = totalOf (fun key => min (cost key) greatestCost) (c.residents.map (·.key)) :=
      hexact.spent_of_idle hplaced fun he => (hcost _ _ he).2
    have hbudget : c.spent ≤ sizing.maxCost := by
      rcases hwithin hidle with hin | hnone
      · exact hmax ▸ hin
      · rw [hspent, hnone]
        exact Nat.zero_le _
    refine ⟨cost, fun key value hvalue => ?_, hspent, hbudget, fun key hkey => ?_⟩
    · simp only [find?] at hvalue
      split at hvalue
      · cases hvalue
      · obtain ⟨e, he, rfl⟩ := Option.map_eq_some_iff.1 hvalue
        exact (hcost key e he).1
    · have hle := le_totalOf (fun key => min (cost key) greatestCost) hkey
      exact Nat.le_trans hle (hspent ▸ hbudget)

/-- Calls for a trial with a budget of twelve, maintained after every fourth value: one that is admitted is
given another cost, one is too dear, and one is removed after maintenance has seen its new cost. -/
def trialCosts : List LocalCall :=
  [.set "p" plainValue 4, .set "q" plainValue 3, .set "p" otherValue 6, .set "r" plainValue 20,
    .set "q" otherValue 5, .get "q", .flush, .delete "q", .set "s" plainValue 2]

theorem account_exact_in_trial : LocalCall.flush.Maintains ⟨12, 100, 4⟩ trialCosts ∧
    settles (ofSizing ⟨12, 100, 4⟩) (trialCosts ++ [.flush]) = true ∧
    ∃ cost : String → Nat, LocalCall.Latest "p" otherValue (cost "p") (trialCosts ++ [.flush]) ∧
      LocalCall.Latest "s" plainValue (cost "s") (trialCosts ++ [.flush]) ∧
      ∃ keys : List String, keys.length = 2 ∧
        8 = totalOf (fun key => min (cost key) greatestCost) keys := by
  have hsettles : settles (ofSizing ⟨12, 100, 4⟩) (trialCosts ++ [.flush]) = true := by decide +kernel
  obtain ⟨keys, -, -, hlength, hexact⟩ := account_exact ⟨12, 100, 4⟩ trialCosts .flush trivial
  obtain ⟨cost, hlatest, hspent, -⟩ := hexact hsettles
  refine ⟨trivial, hsettles, cost, hlatest "p" otherValue ?_, hlatest "s" plainValue ?_, keys, ?_, ?_⟩
  · decide +kernel
  · decide +kernel
  · rw [← hlength]
    decide +kernel
  · rw [← hspent]
    decide +kernel

/-- Calls in which a value is given another cost, removed and set anew before maintenance sees any of it. -/
def driftingCosts : List LocalCall :=
  [.set "a" plainValue 50, .set "b" plainValue 20, .set "b" plainValue 40, .delete "b"]

/-- Then the account takes the new cost away where it had only the old one: the one value that is found
has a cost of fifty, but the account says thirty. -/
theorem account_drifts :
    (LocalCall.set "b" plainValue 110).Maintains ⟨100, 1000, 2⟩ driftingCosts ∧
      (afterCalls ⟨100, 1000, 2⟩ (driftingCosts ++ [.set "b" plainValue 110])).residents.map (·.key) =
        ["a"] ∧
      (afterCalls ⟨100, 1000, 2⟩ (driftingCosts ++ [.set "b" plainValue 110])).find? "a" =
        some plainValue ∧
      LocalCall.Latest "a" plainValue 50 (driftingCosts ++ [.set "b" plainValue 110]) ∧
      (afterCalls ⟨100, 1000, 2⟩ (driftingCosts ++ [.set "b" plainValue 110])).spent = 30 := by
  refine ⟨rfl, by decide +kernel, by decide +kernel,
    ⟨[], driftingCosts.tail ++ [.set "b" plainValue 110], rfl, ?_⟩, by decide +kernel⟩
  decide

end Roster.Cache.Local
