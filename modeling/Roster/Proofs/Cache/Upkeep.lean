import Roster.Proofs.Cache.LocalCalls

/-!
# When the local tier is maintained

Maintenance takes account of waiting reads, then of waiting writes, then keeps to the budget. It runs
when it is asked for, when enough values have been set, and when too much waits; in the last case the
call that brings it about has already changed the entries, but is only logged afterwards.

* `counted` is the tier between reads and writes, and `maintain_eq` the order of the steps.
* `Local.Admission` says that a step concerns entries, admitted entries and the account and nothing else.
* `upkeep` lists the maintenance runs of a call, and `respond_keeps` says what has to be shown of a
  property of the tier and of what waits so that every call keeps it.
-/

namespace Roster.Cache.Local

/-! ### The steps of maintenance -/

/-- The tier once waiting reads are counted, with no writes that wait. -/
def counted (c : Local) : Local :=
  { c.reads.foldl applyRead { c with reads := [] } with writes := [] }

theorem maintain_eq {c : Local} (h : c.maxCost ≠ 0) :
    c.maintain = (c.writes.foldl applyWrite c.counted).startCounting.keepBudget := by
  simp only [maintain]
  rw [if_neg h]
  rfl

theorem maintain_of_no_budget {c : Local} (h : c.maxCost = 0) : c.maintain = c := by
  simp only [maintain]
  rw [if_pos h]

/-- The second tier differs from the first in entries, admitted entries and the account only. -/
def Admission (c d : Local) : Prop :=
  d = { c with entries := d.entries, residents := d.residents, spent := d.spent }

theorem Admission.trans {c d e : Local} (h : Admission c d) (h' : Admission d e) : Admission c e := by
  rw [Admission] at h h' ⊢
  rw [h', h]

theorem Admission.frame {c d : Local} (h : Admission c d) :
    d.maxCost = c.maxCost ∧ d.lives = c.lives ∧ d.counts = c.counts := by
  rw [Admission] at h
  rw [h]
  exact ⟨rfl, rfl, rfl⟩

theorem admission_foldl {α : Type} {step : Local → α → Local}
    (hstep : ∀ c a, Admission c (step c a)) (as : List α) (c : Local) :
    Admission c (as.foldl step c) := by
  induction as generalizing c with
  | nil => rfl
  | cons a as ih => exact (hstep c a).trans (ih _)

theorem admission_evict (c : Local) (r : Resident) : Admission c (c.evict r) := by
  simp only [evict]
  split
  · split <;> rfl
  · rfl

theorem admission_refuse (c : Local) (key : String) (write : Nat) :
    Admission c (c.refuse key write) := by
  simp only [refuse]
  split
  · split <;> rfl
  · rfl

theorem admission_consider (c : Local) (key : String) (life write cost : Nat) :
    Admission c (c.consider key life write cost) := by
  unfold consider
  split
  · rfl
  · split
    · exact admission_refuse c key write
    · dsimp only
      split
      · exact (admission_foldl admission_evict _ c).trans rfl
      · exact admission_refuse c key write

theorem admission_applyWrite (c : Local) (w : LoggedWrite) : Admission c (c.applyWrite w) := by
  cases w with
  | removal life cost =>
    simp only [applyWrite]
    split <;> rfl
  | put key life write oldCost cost =>
    simp only [applyWrite]
    split
    · rfl
    · split
      · rfl
      · split
        · rfl
        · exact admission_consider c key life write cost

theorem admission_shrink (excess : Nat) (residents : List Resident) (c : Local) :
    Admission c (shrink excess c residents) := by
  induction residents generalizing excess c with
  | nil => rfl
  | cons r residents ih =>
    simp only [shrink]
    split
    · rfl
    · exact (admission_evict c r).trans (ih _ _)

/-- Taking account of a read concerns the counts and the order of the admitted entries only. -/
theorem applyRead_eq (c : Local) (r : LoggedRead) : c.applyRead r =
    { c with counts := (c.applyRead r).counts, residents := (c.applyRead r).residents } := by
  simp only [applyRead]
  split <;> (split <;> first | rfl | (split <;> rfl))

/-- A read moves the entry that it found, if that is admitted. -/
theorem residents_applyRead (c : Local) (r : LoggedRead) :
    (c.applyRead r).residents = c.residents ∨ ∃ life, r.found = some life ∧
      c.isResident life = true ∧ (c.applyRead r).residents = (c.renew r.key life).residents := by
  cases hfound : r.found with
  | none =>
    refine .inl ?_
    simp only [applyRead, hfound]
    split <;> rfl
  | some life =>
    have hresident : (c.applyRead r).residents =
        if c.isResident life then (c.renew r.key life).residents else c.residents := by
      simp only [applyRead, hfound]
      split
      · show Local.residents (if c.isResident life then _ else _) = _
        split <;> rfl
      · split <;> rfl
    by_cases h : c.isResident life = true
    · exact .inr ⟨life, rfl, h, by rw [hresident, if_pos h]⟩
    · exact .inl (by rw [hresident, if_neg h])

/-- A read counts its own key at most. -/
theorem counts_applyRead (c : Local) (r : LoggedRead) : (c.applyRead r).counts = c.counts ∨
    ∃ n, (c.applyRead r).counts = Keyed.put c.counts r.key n := by
  have hcounts : (c.applyRead r).counts = if c.counting then
      Keyed.put c.counts r.key (min greatestCount (c.count r.key + 1)) else c.counts := by
    simp only [applyRead]
    split <;> split <;> first | rfl | (split <;> rfl)
  split at hcounts
  · exact .inr ⟨_, hcounts⟩
  · exact .inl hcounts

theorem foldl_applyRead_eq (rs : List LoggedRead) (c : Local) : rs.foldl applyRead c =
    { c with counts := (rs.foldl applyRead c).counts
             residents := (rs.foldl applyRead c).residents } := by
  induction rs generalizing c with
  | nil => rfl
  | cons r rs ih =>
    rw [List.foldl_cons, ih, applyRead_eq]

theorem counted_eq (c : Local) : c.counted =
    { c with counts := c.counted.counts, residents := c.counted.residents, reads := [], writes := [] } := by
  simp only [counted]
  rw [foldl_applyRead_eq]

/-- After the reads are counted maintenance concerns entries, admitted entries, the account, and whether
lookups are counted. -/
theorem maintain_eq_counted {c : Local} (h : c.maxCost ≠ 0) : c.maintain = { c.counted with
    entries := c.maintain.entries, residents := c.maintain.residents, spent := c.maintain.spent
    counting := c.maintain.counting } := by
  have hstart : ∀ d : Local, d.startCounting = { d with counting := d.startCounting.counting } := by
    intro d
    simp only [startCounting]
    split <;> rfl
  have hadmitted := admission_foldl admission_applyWrite c.writes c.counted
  have hkept := admission_shrink ((c.writes.foldl applyWrite c.counted).startCounting.spent -
    (c.writes.foldl applyWrite c.counted).startCounting.maxCost)
    (c.writes.foldl applyWrite c.counted).startCounting.residents
    (c.writes.foldl applyWrite c.counted).startCounting
  rw [maintain_eq h, keepBudget, hkept, hstart, hadmitted]

/-- Maintenance leaves nothing that waits, and does not touch what counts calls and entries. -/
theorem maintain_frame {c : Local} (h : c.maxCost ≠ 0) : c.maintain.reads = [] ∧
    c.maintain.writes = [] ∧ c.maintain.maxCost = c.maxCost ∧ c.maintain.bufferItems = c.bufferItems ∧
    c.maintain.lives = c.lives ∧ c.maintain.written = c.written := by
  rw [maintain_eq_counted h, counted_eq]
  exact ⟨rfl, rfl, rfl, rfl, rfl, rfl⟩

theorem counts_maintain {c : Local} (h : c.maxCost ≠ 0) : c.maintain.counts = c.counted.counts := by
  rw [maintain_eq_counted h]

/-! ### When maintenance is due -/

theorem bufferItems_maintain (c : Local) : c.maintain.bufferItems = c.bufferItems := by
  by_cases hm : c.maxCost = 0
  · rw [maintain_of_no_budget hm]
  · exact (maintain_frame hm).2.2.2.1

theorem written_maintain (c : Local) : c.maintain.written = c.written := by
  by_cases hm : c.maxCost = 0
  · rw [maintain_of_no_budget hm]
  · exact (maintain_frame hm).2.2.2.2.2

theorem logWrite_frame (c : Local) (w : LoggedWrite) :
    (c.logWrite w).bufferItems = c.bufferItems ∧ (c.logWrite w).written = c.written := by
  simp only [logWrite]
  split
  · exact ⟨bufferItems_maintain c, written_maintain c⟩
  · exact ⟨rfl, rfl⟩

theorem logRead_frame (c : Local) (r : LoggedRead) :
    (c.logRead r).bufferItems = c.bufferItems ∧ (c.logRead r).written = c.written := by
  simp only [logRead]
  split
  · exact ⟨bufferItems_maintain c, written_maintain c⟩
  · exact ⟨rfl, rfl⟩

/-- Putting an entry in place logs nothing yet. -/
theorem putting_frame (c : Local) (key : String) (value : ByteArray) (cost : Nat) :
    (c.putting key value cost).1.reads = c.reads ∧ (c.putting key value cost).1.writes = c.writes ∧
      (c.putting key value cost).1.maxCost = c.maxCost ∧
      (c.putting key value cost).1.bufferItems = c.bufferItems ∧
      (c.putting key value cost).1.written = c.written ∧
      (c.putting key value cost).1.counts = c.counts := by
  simp only [putting]
  split <;> exact ⟨rfl, rfl, rfl, rfl, rfl, rfl⟩

theorem write_frame (c : Local) (key : String) (value : ByteArray) (cost : Nat) :
    (c.write key value cost).maxCost = c.maxCost ∧
      (c.write key value cost).bufferItems = c.bufferItems ∧
      (c.write key value cost).written = c.written := by
  by_cases hm : c.maxCost = 0
  · have hsame : c.write key value cost = c := by simp only [write, if_pos hm]
    rw [hsame]
    exact ⟨rfl, rfl, rfl⟩
  · obtain ⟨-, -, hmax, hbuffer, hwritten, -⟩ := putting_frame c key value cost
    obtain ⟨hbuffer', hwritten'⟩ :=
      logWrite_frame (c.putting key value cost).1 (c.putting key value cost).2
    rw [write_putting hm, hbuffer', hwritten', (shrinks_logWrite _ _).maxCost_eq]
    exact ⟨hmax, hbuffer, hwritten⟩

/-- Only setting a value is counted. -/
theorem respond_frame (c : Local) (call : LocalCall) :
    (c.respond call).2.bufferItems = c.bufferItems ∧
      (c.respond call).2.written = c.written + if call.isSet then 1 else 0 := by
  cases call with
  | get key =>
    show (c.get key).2.bufferItems = _ ∧ (c.get key).2.written = _
    simp only [get]
    split
    · exact ⟨rfl, rfl⟩
    · split
      · rename_i e _
        exact logRead_frame c ⟨key, some e.life⟩
      · exact logRead_frame c ⟨key, none⟩
  | set key value cost =>
    show (c.set key value cost).bufferItems = _ ∧ (c.set key value cost).written = _ + 1
    obtain ⟨-, hbuffer, hwritten⟩ := write_frame c key value cost
    simp only [set]
    split
    · rw [bufferItems_maintain, written_maintain]
      exact ⟨hbuffer, congrArg (· + 1) hwritten⟩
    · exact ⟨hbuffer, congrArg (· + 1) hwritten⟩
  | delete key =>
    show (c.delete key).bufferItems = _ ∧ (c.delete key).written = _
    simp only [delete]
    split
    · exact ⟨rfl, rfl⟩
    · exact logWrite_frame _ _
  | flush => exact ⟨bufferItems_maintain c, written_maintain c⟩

theorem bufferItems_afterCalls (sizing : Sizing) (calls : List LocalCall) :
    (afterCalls sizing calls).bufferItems = max 1 sizing.bufferItems :=
  Program.after_induction (P := fun c : Local => c.bufferItems = max 1 sizing.bufferItems)
    (fun call c h => (respond_frame c call).1.trans h) rfl calls

theorem written_afterCalls (sizing : Sizing) (calls : List LocalCall) :
    (afterCalls sizing calls).written = calls.countP LocalCall.isSet := by
  induction calls using List.reverseRecOn with
  | nil => rfl
  | append_singleton calls call ih =>
    rw [afterCalls_concat, (respond_frame _ call).2, ih, List.countP_append, List.countP_singleton]

/-- After a call that ends in maintenance nothing waits. -/
theorem idle_of_maintains {sizing : Sizing} {calls : List LocalCall} {call : LocalCall}
    (hm : sizing.maxCost ≠ 0) (h : call.Maintains sizing calls) :
    (afterCalls sizing (calls ++ [call])).reads = [] ∧
      (afterCalls sizing (calls ++ [call])).writes = [] := by
  rw [afterCalls_concat]
  have hmax := maxCost_afterCalls sizing calls
  cases call with
  | flush =>
    obtain ⟨hreads, hwrites, -⟩ := maintain_frame (c := afterCalls sizing calls) (by rwa [hmax])
    exact ⟨hreads, hwrites⟩
  | set key value cost =>
    obtain ⟨hmax', hbuffer, hwritten⟩ := write_frame (afterCalls sizing calls) key value cost
    have hdue : (((afterCalls sizing calls).write key value cost).written + 1) %
        ((afterCalls sizing calls).write key value cost).bufferItems = 0 := by
      rw [hbuffer, hwritten, bufferItems_afterCalls, written_afterCalls]
      exact h
    show ((afterCalls sizing calls).set key value cost).reads = [] ∧
      ((afterCalls sizing calls).set key value cost).writes = []
    simp only [set]
    rw [if_pos hdue]
    obtain ⟨hreads, hwrites, -⟩ := maintain_frame (c := { (afterCalls sizing calls).write key value cost
      with written := ((afterCalls sizing calls).write key value cost).written + 1 })
      (by rwa [hmax', hmax])
    exact ⟨hreads, hwrites⟩
  | get key => cases h
  | delete key => cases h

/-! ### The maintenance runs of a call -/

/-- The maintenance runs of a call: the tier that is maintained, and what of the call is logged only
afterwards. -/
def upkeep (c : Local) : LocalCall → List (Local × List LoggedWrite)
  | .get _ => if greatestBacklog ≤ c.reads.length then [(c, [])] else []
  | .set key value cost =>
    let (put, w) := c.putting key value cost
    let d := { c.write key value cost with written := (c.write key value cost).written + 1 }
    (if greatestBacklog ≤ c.writes.length then [(put, [w])] else []) ++
      if d.written % d.bufferItems = 0 then [(d, [])] else []
  | .delete key =>
    match Keyed.get? c.entries key with
    | none => []
    | some e =>
      if greatestBacklog ≤ c.writes.length then
        [({ c with entries := Keyed.erase c.entries key }, [.removal e.life e.cost])]
      else []
  | .flush => [(c, [])]

theorem maintain_keeps {P : Local → List LoggedRead → List LoggedWrite → Prop} {c : Local}
    (hmaintain : c.maxCost ≠ 0 → P c (c.reads ++ []) (c.writes ++ []) → P c.maintain [] [])
    (h : P c c.reads c.writes) : P c.maintain c.maintain.reads c.maintain.writes := by
  by_cases hm : c.maxCost = 0
  · rw [maintain_of_no_budget hm]
    exact h
  · obtain ⟨hreads, hwrites, -⟩ := maintain_frame hm
    rw [hreads, hwrites]
    exact hmaintain hm (by rwa [List.append_nil, List.append_nil])

section Keeps

/-! What is kept is a property of the tier, of the reads and of the writes that wait. A call that is being
logged counts as waiting already. -/

variable {P : Local → List LoggedRead → List LoggedWrite → Prop}
  (hlogs : ∀ {d : Local} {rs ws} (reads writes written hits misses), P d rs ws →
    P { d with reads := reads, writes := writes, written := written, hits := hits, misses := misses }
      rs ws)

include hlogs

theorem logRead_keeps {c : Local} {r : LoggedRead} (hm : c.maxCost ≠ 0)
    (hmaintain : greatestBacklog ≤ c.reads.length → P c (c.reads ++ [r]) (c.writes ++ []) →
      P c.maintain [r] [])
    (h : P c (c.reads ++ [r]) c.writes) :
    P (c.logRead r) (c.logRead r).reads (c.logRead r).writes := by
  simp only [logRead]
  split
  · rename_i hfull
    obtain ⟨hreads, hwrites, -⟩ := maintain_frame hm
    rw [hreads, hwrites]
    exact hlogs _ _ _ _ _ (hmaintain hfull (by rwa [List.append_nil]))
  · exact hlogs _ _ _ _ _ h

theorem logWrite_keeps {c : Local} {w : LoggedWrite}
    (hmaintain : greatestBacklog ≤ c.writes.length → c.maxCost ≠ 0 →
      P c (c.reads ++ []) (c.writes ++ [w]) → P c.maintain [] [w])
    (h : P c c.reads (c.writes ++ [w])) :
    P (c.logWrite w) (c.logWrite w).reads (c.logWrite w).writes := by
  simp only [logWrite]
  split
  · rename_i hfull
    by_cases hm : c.maxCost = 0
    · rw [maintain_of_no_budget hm]
      exact hlogs _ _ _ _ _ h
    · obtain ⟨hreads, hwrites, -⟩ := maintain_frame hm
      rw [hreads, hwrites]
      exact hlogs _ _ _ _ _ (hmaintain hfull hm (by rwa [List.append_nil]))
  · exact hlogs _ _ _ _ _ h

theorem write_keeps {c : Local} {key : String} {value : ByteArray} {cost : Nat}
    (hput : c.maxCost ≠ 0 →
      P (c.putting key value cost).1 c.reads (c.writes ++ [(c.putting key value cost).2]))
    (hmaintain : ∀ m ∈ c.upkeep (.set key value cost), m.1.maxCost ≠ 0 → ∀ rs,
      P m.1 (m.1.reads ++ rs) (m.1.writes ++ m.2) → P m.1.maintain rs m.2)
    (h : P c c.reads c.writes) :
    P (c.write key value cost) (c.write key value cost).reads (c.write key value cost).writes := by
  by_cases hm : c.maxCost = 0
  · simp only [write, if_pos hm]
    exact h
  · obtain ⟨hreads, hwrites, -⟩ := putting_frame c key value cost
    rw [write_putting hm]
    refine logWrite_keeps hlogs (fun hfull hm' => ?_) ?_
    · rw [hwrites] at hfull
      exact hmaintain ((c.putting key value cost).1, [(c.putting key value cost).2])
        (by simp [upkeep, hfull]) hm' []
    · rw [hreads, hwrites]
      exact hput hm

section Respond

variable {c : Local} {call : LocalCall}
  (hset : ∀ key value cost, call = .set key value cost → c.maxCost ≠ 0 →
    P (c.putting key value cost).1 c.reads (c.writes ++ [(c.putting key value cost).2]))
  (hdelete : ∀ key e, call = .delete key → Keyed.get? c.entries key = some e →
    P { c with entries := Keyed.erase c.entries key } c.reads
      (c.writes ++ [.removal e.life e.cost]))
  (hmaintain : ∀ m ∈ c.upkeep call, m.1.maxCost ≠ 0 → ∀ rs,
    P m.1 (m.1.reads ++ rs) (m.1.writes ++ m.2) → P m.1.maintain rs m.2)
  (h : P c c.reads c.writes)

include hset hdelete hmaintain h

/-- A call keeps a property of the tier and of what waits if it holds once the call is under way, and if
the maintenance runs of the call keep it. -/
theorem respond_keeps
    (hget : ∀ key, call = .get key → c.maxCost ≠ 0 →
      P c (c.reads ++ [⟨key, (Keyed.get? c.entries key).map (·.life)⟩]) c.writes) :
    P (c.respond call).2 (c.respond call).2.reads (c.respond call).2.writes := by
  cases call with
  | get key =>
    show P (c.get key).2 (c.get key).2.reads (c.get key).2.writes
    simp only [get]
    split
    · exact hlogs _ _ _ _ _ h
    · rename_i hm
      have hread := hget key rfl hm
      have hlogged := fun r => logRead_keeps hlogs (r := r) hm fun hfull =>
        hmaintain (c, []) (by simp [upkeep, hfull]) hm [r]
      split <;> rename_i hfound <;> rw [hfound] at hread
      · exact hlogs _ _ _ _ _ (hlogged _ hread)
      · exact hlogs _ _ _ _ _ (hlogged _ hread)
  | set key value cost =>
    have hwritten := write_keeps hlogs (hset key value cost rfl) hmaintain h
    show P (c.set key value cost) (c.set key value cost).reads (c.set key value cost).writes
    unfold set
    dsimp only
    split
    · rename_i hdue
      refine maintain_keeps (fun hm => hmaintain (_, []) ?_ hm []) (hlogs _ _ _ _ _ hwritten)
      simp [upkeep, hdue]
    · exact hlogs _ _ _ _ _ hwritten
  | delete key =>
    show P (c.delete key) (c.delete key).reads (c.delete key).writes
    simp only [delete]
    split
    · exact h
    · rename_i e he
      refine logWrite_keeps hlogs (fun hfull hm => ?_) (hdelete key e rfl he)
      exact hmaintain (_, _) (by simp [upkeep, he, hfull]) hm []
  | flush =>
    exact maintain_keeps (fun hm => hmaintain (c, []) (by simp [upkeep]) hm []) h

/-- The property holds of each tier that the call brings to maintenance. -/
theorem upkeep_keeps : ∀ m ∈ c.upkeep call, m.1.maxCost ≠ 0 →
    P m.1 m.1.reads (m.1.writes ++ m.2) := by
  intro m hmem hm
  cases call with
  | get key =>
    simp only [upkeep] at hmem
    split at hmem
    · obtain rfl := List.mem_singleton.1 hmem
      rwa [List.append_nil]
    · cases hmem
  | set key value cost =>
    obtain ⟨hreads, hwrites, hmax, -⟩ := putting_frame c key value cost
    simp only [upkeep] at hmem
    rcases List.mem_append.1 hmem with hmem | hmem
    · split at hmem
      · obtain rfl := List.mem_singleton.1 hmem
        rw [hreads, hwrites]
        exact hset key value cost rfl (hmax ▸ hm)
      · cases hmem
    · split at hmem
      · obtain rfl := List.mem_singleton.1 hmem
        rw [List.append_nil]
        exact hlogs _ _ _ _ _ (write_keeps hlogs (hset key value cost rfl) hmaintain h)
      · cases hmem
  | delete key =>
    simp only [upkeep] at hmem
    split at hmem
    · cases hmem
    · rename_i e he
      split at hmem
      · obtain rfl := List.mem_singleton.1 hmem
        exact hdelete key e rfl he
      · cases hmem
  | flush =>
    obtain rfl := List.mem_singleton.1 hmem
    rwa [List.append_nil]

end Respond

end Keeps

end Roster.Cache.Local
