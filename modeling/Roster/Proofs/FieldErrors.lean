import Roster.FieldErrors
import Roster.Proofs.Text.ByteOrder

/-!
# What a failure says of faulty fields

The failure for the faults of a request names each of its own faults once: fields in the order of their
bytes, the faults of one field in the order in which they were found. Faults inside a field are not
named, and the order in which the fields come makes no difference.

* `filter_lines` says that sorting leaves the faults of one field as they are.
* `Told` says what the lines of a failure are, and `Told.unique` that there is only one choice.
* `failure_tells_faults` puts both together.
-/

namespace Roster.Faults

open Roster.Text

/-! ### Sorting lines -/

theorem Line.le_trans (a b c : Line) (hab : a.le b = true) (hbc : b.le c = true) : a.le c = true :=
  decide_eq_true (String.le_trans (of_decide_eq_true hab) (of_decide_eq_true hbc))

theorem Line.le_total (a b : Line) : (a.le b || b.le a) = true := by
  rw [Bool.or_eq_true]
  exact (String.le_total a.field b.field).imp decide_eq_true decide_eq_true

theorem pairwise_lines (faults : Faults) :
    faults.lines.Pairwise fun a b => a.field ≤ b.field := by
  have hsorted := List.pairwise_mergeSort Line.le_trans Line.le_total (faults.flatMap fieldLines)
  exact hsorted.imp of_decide_eq_true

/-- Sorting leaves the lines of one field as they are, since none of them has to stand before another. -/
theorem filter_mergeSort (lines : List Line) (field : String) :
    (lines.mergeSort Line.le).filter (·.field = field) = lines.filter (·.field = field) := by
  have hequal : (lines.filter (·.field = field)).Pairwise fun a b => a.le b = true := by
    refine List.pairwise_of_forall_mem_list fun a ha b hb => decide_eq_true ?_
    have hfa : a.field = field := of_decide_eq_true (List.mem_filter.1 ha).2
    have hfb : b.field = field := of_decide_eq_true (List.mem_filter.1 hb).2
    exact (hfa.trans hfb.symm) ▸ String.le_refl a.field
  have hkept := List.sublist_mergeSort Line.le_trans Line.le_total hequal List.filter_sublist
  have hamong := hkept.filter (·.field = field)
  rw [List.filter_filter] at hamong
  simp only [Bool.and_self] at hamong
  have hlength := ((List.mergeSort_perm lines Line.le).filter (·.field = field)).length_eq
  exact (hamong.eq_of_length hlength.symm).symm

/-! ### The lines of one field -/

theorem field_of_mem_fieldLines {e : String × FieldFaults} {l : Line} (h : l ∈ fieldLines e) :
    l.field = e.1 := by
  obtain ⟨field, known⟩ := e
  cases known with
  | own known =>
    obtain ⟨f, _, rfl⟩ := List.mem_map.1 h
    rfl
  | nested inside => cases h
  | listed inside => cases h

theorem filter_fieldLines (e : String × FieldFaults) (field : String) :
    (fieldLines e).filter (·.field = field) = if e.1 = field then fieldLines e else [] := by
  split
  · rename_i heq
    refine List.filter_eq_self.2 fun l hl => decide_eq_true ?_
    rw [field_of_mem_fieldLines hl, heq]
  · rename_i hne
    refine List.filter_eq_nil_iff.2 fun l hl => ?_
    rw [decide_eq_true_eq, field_of_mem_fieldLines hl]
    exact hne

/-- Among the lines for all fields those of one field are its own. -/
theorem filter_lines {faults : Faults} (h : (faults.map Prod.fst).Nodup) {e : String × FieldFaults}
    (he : e ∈ faults) : faults.lines.filter (·.field = e.1) = fieldLines e := by
  rw [lines, filter_mergeSort]
  induction faults with
  | nil => cases he
  | cons first rest ih =>
    rw [List.map_cons, List.nodup_cons] at h
    rw [List.flatMap_cons, List.filter_append, filter_fieldLines]
    rcases List.mem_cons.1 he with rfl | hrest
    · have hnone : (rest.flatMap fieldLines).filter (·.field = e.1) = [] := by
        refine List.filter_eq_nil_iff.2 fun l hl => ?_
        obtain ⟨other, hother, hlines⟩ := List.mem_flatMap.1 hl
        rw [decide_eq_true_eq, field_of_mem_fieldLines hlines]
        intro heq
        exact h.1 (heq ▸ List.mem_map_of_mem hother)
      rw [if_pos rfl, hnone, List.append_nil]
    · have hne : first.1 ≠ e.1 := fun heq => h.1 (heq ▸ List.mem_map_of_mem hrest)
      rw [if_neg hne, List.nil_append, ih h.2 hrest]

/-! ### What a failure tells -/

/-- Lines that tell of a request's own faults and of nothing else: fields are in the order of their
bytes, a field's own faults are there in their order, with their words or else their codes, and every
line is about a field with faults of its own. -/
structure Told (faults : Faults) (lines : List Line) : Prop where
  ordered : lines.Pairwise fun a b => bytes a.field ≤ bytes b.field
  complete : ∀ field known, (field, .own known) ∈ faults →
    lines.filter (·.field = field) = known.map fun f => ⟨field, f.message.getD f.code⟩
  owned : ∀ l ∈ lines, ∃ known, (l.field, FieldFaults.own known) ∈ faults

theorem told_lines {faults : Faults} (h : (faults.map Prod.fst).Nodup) : Told faults faults.lines where
  ordered := (pairwise_lines faults).imp bytes_le_iff.2
  complete _ _ hfield := filter_lines h hfield
  owned l hl := by
    have hmem : l ∈ faults.flatMap fieldLines := (List.mergeSort_perm _ _).mem_iff.1 hl
    obtain ⟨⟨field, known⟩, he, hlines⟩ := List.mem_flatMap.1 hmem
    cases known with
    | own known => exact ⟨known, field_of_mem_fieldLines hlines ▸ he⟩
    | nested inside => cases hlines
    | listed inside => cases hlines

/-- Lines ordered by field are determined by the lines of each field. -/
theorem eq_of_filters {lines others : List Line}
    (h : lines.Pairwise fun a b => a.field ≤ b.field)
    (h' : others.Pairwise fun a b => a.field ≤ b.field)
    (hfilters : ∀ field, lines.filter (·.field = field) = others.filter (·.field = field)) :
    lines = others := by
  induction lines generalizing others with
  | nil =>
    cases others with
    | nil => rfl
    | cons b others => simpa using hfilters b.field
  | cons a lines ih =>
    cases others with
    | nil => simpa using hfilters a.field
    | cons b others =>
      rw [List.pairwise_cons] at h h'
      have hmem : ∀ l, l ∈ a :: lines ↔ l ∈ b :: others := by
        intro l
        have := congrArg (l ∈ ·) (hfilters l.field)
        simpa [List.mem_filter] using this
      have hab : a.field ≤ b.field := by
        rcases List.mem_cons.1 ((hmem b).2 List.mem_cons_self) with rfl | hb
        · exact String.le_refl _
        · exact h.1 b hb
      have hba : b.field ≤ a.field := by
        rcases List.mem_cons.1 ((hmem a).1 List.mem_cons_self) with rfl | ha
        · exact String.le_refl _
        · exact h'.1 a ha
      have hfield : b.field = a.field := String.le_antisymm hba hab
      have hfirst := hfilters a.field
      rw [List.filter_cons_of_pos (by simp), List.filter_cons_of_pos (by simp [hfield])] at hfirst
      obtain ⟨rfl, _⟩ := List.cons.inj hfirst
      refine congrArg (a :: ·) (ih h.2 h'.2 fun field => ?_)
      have hrest := hfilters field
      by_cases heq : a.field = field
      · rw [List.filter_cons_of_pos (by simp [heq]), List.filter_cons_of_pos (by simp [heq])] at hrest
        exact (List.cons.inj hrest).2
      · rwa [List.filter_cons_of_neg (by simp [heq]), List.filter_cons_of_neg (by simp [heq])] at hrest

/-- There is only one way to tell of faults. -/
theorem Told.unique {faults : Faults} {lines others : List Line} (h : Told faults lines)
    (h' : Told faults others) : lines = others := by
  refine eq_of_filters (h.ordered.imp bytes_le_iff.1) (h'.ordered.imp bytes_le_iff.1) fun field => ?_
  by_cases hown : ∃ known, (field, FieldFaults.own known) ∈ faults
  · obtain ⟨known, hknown⟩ := hown
    rw [h.complete field known hknown, h'.complete field known hknown]
  · have hnone : ∀ {ls : List Line}, Told faults ls → ls.filter (·.field = field) = [] := by
      intro ls htold
      refine List.filter_eq_nil_iff.2 fun l hl heq => hown ?_
      obtain ⟨known, hknown⟩ := htold.owned l hl
      exact ⟨known, of_decide_eq_true heq ▸ hknown⟩
    rw [hnone h, hnone h']

theorem Told.perm {faults others : Faults} (h : others.Perm faults) {lines : List Line}
    (htold : Told faults lines) : Told others lines where
  ordered := htold.ordered
  complete field known hfield := htold.complete field known (h.mem_iff.1 hfield)
  owned l hl := (htold.owned l hl).imp fun _ hknown => h.mem_iff.2 hknown

/-- **A failure names all own faults, whatever the order of the fields.**  Among all lists of lines
exactly one tells of the faults of a request, and the failure consists of these lines, each with its
field and its words, joined by semicolons. Faults whose fields come in another order are the same
failure. -/
theorem failure_tells_faults (faults : Faults) (h : (faults.map Prod.fst).Nodup) :
    (∃ lines, Told faults lines ∧ (∀ others, Told faults others → others = lines) ∧
        faults.failure =
          .validation ("; ".intercalate (lines.map fun l => l.field ++ ": " ++ l.text))) ∧
      ∀ others : Faults, others.Perm faults → others.failure = faults.failure := by
  have htold := told_lines h
  refine ⟨⟨faults.lines, htold, fun others hothers => hothers.unique htold, rfl⟩, ?_⟩
  intro others hperm
  have hnodup : (others.map Prod.fst).Nodup := (hperm.map Prod.fst).nodup_iff.2 h
  have hlines : others.lines = faults.lines := (told_lines hnodup).unique (htold.perm hperm)
  rw [failure, failure, summary, summary, hlines]

/-- Two fields with faults of their own, and one of each kind with faults inside it. -/
def trialFaults : Faults := [
  ("name", .own [⟨"length", some "at most 8 characters"⟩, ⟨"not_blank", none⟩]),
  ("parent", .nested [("name", .own [⟨"length", none⟩])]),
  ("Email", .own [⟨"length", none⟩]),
  ("parts", .listed [(2, [("name", .own [⟨"length", none⟩])])])]

/-- What is told of them. -/
def trialLines : List Line :=
  [⟨"Email", "length"⟩, ⟨"name", "at most 8 characters"⟩, ⟨"name", "not_blank"⟩]

theorem told_trialLines : Told trialFaults trialLines where
  ordered := by decide +kernel
  complete field known h := by
    simp only [trialFaults, List.mem_cons, Prod.mk.injEq, FieldFaults.own.injEq, reduceCtorEq,
      and_false, List.not_mem_nil, false_or, or_false] at h
    rcases h with ⟨rfl, rfl⟩ | ⟨rfl, rfl⟩ <;> rfl
  owned l hl := by
    simp only [trialLines, List.mem_cons, List.not_mem_nil, or_false] at hl
    rcases hl with rfl | rfl | rfl <;> simp [trialFaults]

theorem failure_tells_faults_in_trial :
    (trialFaults.map Prod.fst).Nodup ∧
      trialFaults.failure =
        .validation "Email: length; name: at most 8 characters; name: not_blank" ∧
      failure trialFaults.reverse = trialFaults.failure := by
  have hnodup : (trialFaults.map Prod.fst).Nodup := by decide
  obtain ⟨⟨lines, _, hunique, hfailure⟩, hperm⟩ := failure_tells_faults trialFaults hnodup
  have hlines : trialLines = lines := hunique trialLines told_trialLines
  refine ⟨hnodup, ?_, hperm _ (List.reverse_perm _)⟩
  rw [hfailure, ← hlines]
  decide +kernel

end Roster.Faults
