import Roster.Text.Blank
import Roster.Text.Lowercase

/-!
# What lower case leaves alone

The characters of a text in lower case have no lower-case form other than themselves, and blank
characters neither come nor go. So bringing a trimmed text to lower case a second time, or trimming
it a second time, changes nothing.

* `CaseRun.IsClear` is checked for every run of the table: where its lower-case forms lie there are no
  blanks and no members of other runs.
* `settled_lower` is what follows for a text, `lower_lower` and `trim_lower_trim` the consequences.
-/

namespace Roster.Text

/-! ### The table -/

/-- Where characters are neither blank nor surrogates, the dotted capital I left out. -/
def clearSpans : Spans :=
  [(0x21, 0x84), (0xA1, 0x12F), (0x131, 0x167F), (0x1681, 0x1FFF), (0x2060, 0x2FFF),
    (0x3001, 0xD7FF), (0xE000, 0x10FFFF)]

/-- Whether the lower-case forms of a run are in none of the places of another: beyond its ends, or
in every other place between them. -/
def CaseRun.passes (r q : CaseRun) : Bool :=
  (r.last + r.shift < q.first || q.last < r.first + r.shift) ||
    ((r.stride == 2 || r.first == r.last) && q.stride == 2 &&
      (r.first + r.shift - q.first) % 2 == 1)

/-- Whether a run is clear of blanks, and its lower-case forms of blanks and of all runs. -/
def CaseRun.isClear (r : CaseRun) : Bool :=
  (clearSpans.any fun s => s.1 ≤ r.first && r.last ≤ s.2) &&
    (clearSpans.any fun s => (s.1 : Int) ≤ r.first + r.shift && r.last + r.shift ≤ s.2) &&
    lowerRuns.all fun q => r.passes q

theorem isClear_of_mem_lowerRuns {r : CaseRun} (hr : r ∈ lowerRuns) : r.isClear = true := by
  have hall : lowerRuns.all CaseRun.isClear = true := by decide +kernel
  exact List.all_eq_true.1 hall r hr

theorem CaseRun.not_holds_of_passes {r q : CaseRun} (h : r.passes q = true) {n m : Nat}
    (hn : r.holds n = true) (hm : (m : Int) = n + r.shift) : q.holds m = false := by
  simp only [passes, Bool.or_eq_true, Bool.and_eq_true, decide_eq_true_eq, beq_iff_eq] at h
  simp only [holds, Bool.and_eq_true, decide_eq_true_eq, beq_iff_eq] at hn
  obtain ⟨⟨hfirst, hlast⟩, hstride⟩ := hn
  refine Bool.eq_false_iff.2 fun hq => ?_
  simp only [holds, Bool.and_eq_true, decide_eq_true_eq, beq_iff_eq] at hq
  obtain ⟨⟨hqfirst, hqlast⟩, hqstride⟩ := hq
  rcases h with (h | h) | ⟨⟨hr, hq⟩, hodd⟩
  · omega
  · omega
  · rw [hq] at hqstride
    rcases hr with hr | hr
    · rw [hr] at hstride
      omega
    · omega

/-! ### Settled characters -/

/-- A character that is its own lower-case form wherever it stands, and no blank. -/
structure Settled (c : Char) : Prop where
  not_sigma : c ≠ capitalSigma
  lowerChar_eq : lowerChar c = [c]

theorem lowerChar_of_not_holds {c : Char} (hi : c ≠ dottedCapitalI)
    (h : ∀ q ∈ lowerRuns, q.holds c.toNat = false) : lowerChar c = [c] := by
  have hnone : lowerRuns.find? (fun q => q.holds c.toNat) = none := by
    rw [List.find?_eq_none]
    exact fun q hq => by simp [h q hq]
  simp only [lowerChar]
  rw [if_neg (by simpa using hi), hnone]

theorem not_sigma_of_not_holds {c : Char} (h : ∀ q ∈ lowerRuns, q.holds c.toNat = false) :
    c ≠ capitalSigma := by
  intro he
  have hheld : lowerRuns.any (fun q => q.holds capitalSigma.toNat) = true := by decide +kernel
  obtain ⟨q, hq, hh⟩ := List.any_eq_true.1 hheld
  rw [← he, h q hq] at hh
  cases hh

theorem isBlank_of_clear {c : Char} {s : Nat × Nat} (hs : s ∈ clearSpans)
    (h : s.1 ≤ c.toNat ∧ c.toNat ≤ s.2) : isBlank c = false ∧ c ≠ dottedCapitalI := by
  have hi : c = dottedCapitalI ↔ c.toNat = 0x130 :=
    ⟨fun he => by rw [he]; rfl, fun he => Char.toNat_inj.1 he⟩
  rw [Ne, hi]
  simp only [isBlank, Bool.or_eq_false_iff, Bool.and_eq_false_iff, decide_eq_false_iff_not,
    beq_eq_false_iff_ne]
  simp only [clearSpans, List.mem_cons, List.not_mem_nil, or_false] at hs
  rcases hs with rfl | rfl | rfl | rfl | rfl | rfl | rfl <;> simp only at h <;> omega

/-- The lower-case forms of a character that is no sigma are settled, and blank if it is. -/
theorem settled_of_mem_lowerChar {c d : Char} (hc : c ≠ capitalSigma) (hd : d ∈ lowerChar c) :
    Settled d ∧ isBlank d = isBlank c := by
  simp only [lowerChar] at hd
  split at hd
  · rename_i hi
    have hi' : c = dottedCapitalI := by simpa using hi
    subst hi'
    rcases List.mem_cons.1 hd with rfl | hd
    · exact ⟨⟨by decide, by decide +kernel⟩, by decide⟩
    · rw [List.mem_singleton.1 hd]
      exact ⟨⟨by decide, by decide +kernel⟩, by decide⟩
  · rename_i hi
    split at hd
    · rename_i r hfind
      rw [List.mem_singleton.1 hd]
      have hr : r ∈ lowerRuns := List.mem_of_find?_eq_some hfind
      have hheld : r.holds c.toNat = true := by simpa using List.find?_some hfind
      have hclear := isClear_of_mem_lowerRuns hr
      simp only [CaseRun.isClear, Bool.and_eq_true, List.any_eq_true, List.all_eq_true,
        decide_eq_true_eq] at hclear
      obtain ⟨⟨⟨s', hs', hfirst, hlast⟩, s, hs, hlow, hhigh⟩, hpasses⟩ := hclear
      have hbounds : r.first ≤ c.toNat ∧ c.toNat ≤ r.last := by
        simp only [CaseRun.holds, Bool.and_eq_true, decide_eq_true_eq] at hheld
        exact hheld.1
      have hblank := (isBlank_of_clear hs' (c := c) (by omega)).1
      have hvalid : ((c.toNat : Int) + r.shift).toNat.isValidChar := by
        simp only [clearSpans, List.mem_cons, List.not_mem_nil, or_false] at hs
        simp only [Nat.isValidChar]
        rcases hs with rfl | rfl | rfl | rfl | rfl | rfl | rfl <;> simp only at hlow hhigh <;> omega
      have htoNat : (Char.ofNat ((c.toNat : Int) + r.shift).toNat).toNat =
          ((c.toNat : Int) + r.shift).toNat := by
        rw [Char.ofNat, dif_pos hvalid]
        rfl
      have hshift : (((c.toNat : Int) + r.shift).toNat : Int) = c.toNat + r.shift :=
        Int.toNat_of_nonneg (by omega)
      have hfree : ∀ q ∈ lowerRuns,
          q.holds (Char.ofNat ((c.toNat : Int) + r.shift).toNat).toNat = false := by
        intro q hq
        rw [htoNat]
        exact CaseRun.not_holds_of_passes (hpasses q hq) hheld hshift
      obtain ⟨hblank', hni⟩ := isBlank_of_clear hs
        (c := Char.ofNat ((c.toNat : Int) + r.shift).toNat) (by rw [htoNat]; omega)
      exact ⟨⟨not_sigma_of_not_holds hfree, lowerChar_of_not_holds hni hfree⟩,
        hblank'.trans hblank.symm⟩
    · rename_i hnone
      rw [List.mem_singleton.1 hd]
      have hfree : ∀ q ∈ lowerRuns, q.holds c.toNat = false := by
        intro q hq
        have := List.find?_eq_none.1 hnone q hq
        simpa using this
      exact ⟨⟨hc, lowerChar_of_not_holds (by simpa using hi) hfree⟩, rfl⟩

/-! ### Settled texts -/

/-- The lower-case form of a character between two texts. -/
def lowerAt (before : List Char) (c : Char) (rest : List Char) : List Char :=
  if c == capitalSigma then [if endsWord before rest then '\u03C2' else '\u03C3'] else lowerChar c

theorem lowerAfter_cons (before : List Char) (c : Char) (rest : List Char) :
    lowerAfter before (c :: rest) = lowerAt before c rest ++ lowerAfter (c :: before) rest := rfl

theorem lowerChar_ne_nil (c : Char) : lowerChar c ≠ [] := by
  simp only [lowerChar]
  split
  · simp
  · split <;> simp

theorem lowerAt_ne_nil (before : List Char) (c : Char) (rest : List Char) :
    lowerAt before c rest ≠ [] := by
  simp only [lowerAt]
  split
  · simp
  · exact lowerChar_ne_nil c

theorem settled_of_mem_lowerAt {before rest : List Char} {c d : Char}
    (hd : d ∈ lowerAt before c rest) : Settled d ∧ isBlank d = isBlank c := by
  simp only [lowerAt] at hd
  split at hd
  · rename_i hc
    have hc' : c = capitalSigma := by simpa using hc
    rw [List.mem_singleton.1 hd, hc']
    split
    · exact ⟨⟨by decide, by decide +kernel⟩, by decide⟩
    · exact ⟨⟨by decide, by decide +kernel⟩, by decide⟩
  · rename_i hc
    exact settled_of_mem_lowerChar (by simpa using hc) hd

theorem settled_of_mem_lowerAfter {before cs : List Char} {d : Char}
    (hd : d ∈ lowerAfter before cs) : Settled d := by
  induction cs generalizing before with
  | nil => simp [lowerAfter] at hd
  | cons c cs ih =>
    rw [lowerAfter_cons] at hd
    rcases List.mem_append.1 hd with hd | hd
    · exact (settled_of_mem_lowerAt hd).1
    · exact ih hd

theorem lowerAfter_of_settled {before cs : List Char} (h : ∀ c ∈ cs, Settled c) :
    lowerAfter before cs = cs := by
  induction cs generalizing before with
  | nil => rfl
  | cons c cs ih =>
    have hc := h c List.mem_cons_self
    have hat : lowerAt before c cs = [c] := by
      simp only [lowerAt]
      rw [if_neg (by simpa using hc.not_sigma), hc.lowerChar_eq]
    rw [lowerAfter_cons, hat, ih fun d hd => h d (List.mem_cons_of_mem c hd)]
    rfl

/-- A text in lower case stays as it is. -/
theorem lower_lower (cs : List Char) : lower (lower cs) = lower cs :=
  lowerAfter_of_settled fun _ hd => settled_of_mem_lowerAfter hd

/-! ### Trimming -/

theorem trimLeft_eq_self {cs : List Char} (h : ∀ c, cs.head? = some c → isBlank c = false) :
    trimLeft cs = cs := by
  cases cs with
  | nil => rfl
  | cons c cs => exact trimLeft_cons_of_not_blank (h c rfl)

theorem not_blank_of_head?_trimLeft {cs : List Char} {c : Char}
    (h : (trimLeft cs).head? = some c) : isBlank c = false := by
  cases ht : trimLeft cs with
  | nil => rw [ht] at h; cases h
  | cons d ds =>
    rw [ht] at h
    cases h
    exact not_blank_of_trimLeft_eq_cons ht

/-- A text with no blank at either end is trimmed. -/
theorem trim_eq_self {cs : List Char} (hfirst : ∀ c, cs.head? = some c → isBlank c = false)
    (hlast : ∀ c, cs.getLast? = some c → isBlank c = false) : trim cs = cs := by
  simp only [trim]
  rw [trimLeft_eq_self hfirst, trimRight_eq_reverse, trimLeft_eq_self, List.reverse_reverse]
  intro c hc
  rw [List.head?_reverse] at hc
  exact hlast c hc

theorem not_blank_of_getLast?_trim {cs : List Char} {c : Char}
    (h : (trim cs).getLast? = some c) : isBlank c = false := by
  simp only [trim] at h
  rw [trimRight_eq_reverse, List.getLast?_reverse] at h
  exact not_blank_of_head?_trimLeft h

theorem not_blank_of_head?_trim {cs : List Char} {c : Char}
    (h : (trim cs).head? = some c) : isBlank c = false := by
  simp only [trim] at h
  cases ht : trimLeft cs with
  | nil => rw [ht] at h; cases h
  | cons d ds =>
    have hd := not_blank_of_trimLeft_eq_cons ht
    obtain ⟨es, hes⟩ := @trimRight_cons_of_not_blank d ds hd
    rw [ht, hes] at h
    cases h
    exact hd

/-- At its ends a text in lower case is blank where the text was. -/
theorem head?_lowerAfter {before cs : List Char} {d : Char}
    (h : (lowerAfter before cs).head? = some d) : ∃ c, cs.head? = some c ∧ isBlank d = isBlank c := by
  cases cs with
  | nil => cases h
  | cons c cs =>
    rw [lowerAfter_cons, List.head?_append, Option.or_of_isSome
      (List.isSome_head?.2 (lowerAt_ne_nil before c cs))] at h
    exact ⟨c, rfl, (settled_of_mem_lowerAt (List.mem_of_head? h)).2⟩

theorem getLast?_lowerAfter {before cs : List Char} {d : Char}
    (h : (lowerAfter before cs).getLast? = some d) :
    ∃ c, cs.getLast? = some c ∧ isBlank d = isBlank c := by
  induction cs generalizing before with
  | nil => cases h
  | cons c cs ih =>
    rw [lowerAfter_cons] at h
    cases hrest : lowerAfter (c :: before) cs with
    | nil =>
      have hcs : cs = [] := by
        cases cs with
        | nil => rfl
        | cons e es =>
          rw [lowerAfter_cons] at hrest
          exact absurd (List.append_eq_nil_iff.1 hrest).1 (lowerAt_ne_nil _ e es)
      rw [hrest, List.append_nil] at h
      subst hcs
      exact ⟨c, rfl, (settled_of_mem_lowerAt (List.mem_of_getLast? h)).2⟩
    | cons e es =>
      rw [List.getLast?_append, Option.or_of_isSome (List.getLast?_isSome.2
        (by rw [hrest]; exact List.cons_ne_nil e es))] at h
      obtain ⟨b, hb, hblank⟩ := ih h
      refine ⟨b, ?_, hblank⟩
      rw [List.getLast?_cons, hb]
      rfl

theorem trim_lower_trim (cs : List Char) : trim (lower (trim cs)) = lower (trim cs) := by
  apply trim_eq_self
  · intro d hd
    obtain ⟨c, hc, hblank⟩ := head?_lowerAfter hd
    rw [hblank, not_blank_of_head?_trim hc]
  · intro d hd
    obtain ⟨c, hc, hblank⟩ := getLast?_lowerAfter hd
    rw [hblank, not_blank_of_getLast?_trim hc]

/-- Trimming and lower case change nothing a second time. -/
theorem lowered_trimmed_twice (s : String) :
    lowered (trimmed (lowered (trimmed s))) = lowered (trimmed s) := by
  simp only [lowered, trimmed]
  simp only [String.toList_ofList]
  rw [trim_lower_trim, lower_lower]

end Roster.Text
