import Roster.Proofs.Text.Trimming
import Roster.Text.Digits
import Roster.Text.Settled

/-!
# Two ways to lower case

Texts are brought to lower case as Unicode has it or with the capitals of ASCII alone. The two ways
part where a character beyond ASCII has a letter of ASCII as its lower-case form: that is so for the
Kelvin sign, whose form is a `k`, and for the dotted capital I, whose form starts with an `i`.

* `CaseRun.isSimpleInAsciiOnly` is checked for every run of the table.
* `lower_of_simple` is the agreement of the two ways on texts with nothing but simple letters in their
  lower-case form.
* `lower_map_toLower` says that Unicode's way takes texts together that ASCII's does.
-/

namespace Roster.Text

/-! ### Simple letters -/

/-- The small letters of ASCII that are the lower-case form of themselves and of one capital. The
Kelvin sign is a second capital of `k`. -/
def isSimpleLetter (c : Char) : Bool := 'a' ≤ c && c ≤ 'z' && c != 'k'

/-- Whether a run is the capitals of ASCII, or no lower-case form in it is a simple letter. -/
def CaseRun.isSimpleInAsciiOnly (r : CaseRun) : Bool :=
  r = ⟨65, 90, 1, 32⟩ || r.last + r.shift < 97 || 122 < r.first + r.shift ||
    (r.first = r.last && r.first + r.shift = 107)

theorem isSimpleInAsciiOnly_of_mem {r : CaseRun} (hr : r ∈ lowerRuns) :
    r.isSimpleInAsciiOnly = true := by
  have hall : lowerRuns.all CaseRun.isSimpleInAsciiOnly = true := by decide +kernel
  exact List.all_eq_true.1 hall r hr

theorem isSimpleLetter_iff (c : Char) :
    isSimpleLetter c = true ↔ (97 ≤ c.toNat ∧ c.toNat ≤ 122) ∧ c.toNat ≠ 107 := by
  have hk : c = 'k' ↔ c.toNat = 107 := ⟨fun h => by rw [h]; rfl, fun h => Char.toNat_inj.1 h⟩
  simp only [isSimpleLetter, Bool.and_eq_true, decide_eq_true_eq, bne_iff_ne, ne_eq, hk]
  exact Iff.rfl

theorem toLower_of_simple {c : Char} (h : isSimpleLetter c = true) :
    c.toLower = c ∧ isLatin c = true := by
  have hrange := ((isSimpleLetter_iff c).1 h).1
  refine of_run 97 26 c (by omega) ?_
  decide

theorem toLower_of_capital {c : Char} (h : 65 ≤ c.toNat ∧ c.toNat ≤ 90) :
    c.toLower = Char.ofNat (c.toNat + 32) ∧ isLatin c = true := by
  refine of_run 65 26 c (by omega) ?_
  decide

theorem toNat_ofNat_le (n : Nat) : (Char.ofNat n).toNat = n ∨ (Char.ofNat n).toNat = 0 := by
  by_cases hvalid : n.isValidChar
  · rw [Char.ofNat, dif_pos hvalid]
    exact .inl rfl
  · rw [Char.ofNat, dif_neg hvalid]
    exact .inr rfl

/-- A run that holds a character with a simple letter as its form is that of the capitals of ASCII. -/
theorem capital_of_simple {r : CaseRun} (hr : r ∈ lowerRuns) {n : Nat} (hheld : r.holds n = true)
    (hsimple : isSimpleLetter (Char.ofNat ((n : Int) + r.shift).toNat) = true) :
    r = ⟨65, 90, 1, 32⟩ ∧ 65 ≤ n ∧ n ≤ 90 := by
  have hmisses := isSimpleInAsciiOnly_of_mem hr
  have hrange := (isSimpleLetter_iff _).1 hsimple
  have hform := toNat_ofNat_le ((n : Int) + r.shift).toNat
  simp only [CaseRun.isSimpleInAsciiOnly, Bool.or_eq_true, Bool.and_eq_true,
    decide_eq_true_eq] at hmisses
  simp only [CaseRun.holds, Bool.and_eq_true, decide_eq_true_eq] at hheld
  rcases hmisses with ((hascii | hbelow) | habove) | hkelvin
  · rw [hascii] at hheld
    exact ⟨hascii, hheld.1⟩
  all_goals omega

/-- A character with simple letters as its lower-case form is a letter of ASCII, and both ways lead to
this form. -/
theorem lowerChar_of_simple {c : Char} (h : ∀ d ∈ lowerChar c, isSimpleLetter d = true) :
    lowerChar c = [c.toLower] ∧ isLatin c = true := by
  simp only [lowerChar] at h ⊢
  split at h
  · exact absurd (h '\u0307' (by simp)) (by decide)
  · rename_i hdotted
    rw [if_neg hdotted]
    split at h
    · rename_i r hfind
      have hheld : r.holds c.toNat = true := by simpa using List.find?_some hfind
      obtain ⟨rfl, hcapital⟩ := capital_of_simple (List.mem_of_find?_eq_some hfind) hheld
        (h _ (List.mem_singleton.2 rfl))
      obtain ⟨hform, hlatin⟩ := toLower_of_capital hcapital
      exact ⟨by rw [hform]; rfl, hlatin⟩
    · obtain ⟨hform, hlatin⟩ := toLower_of_simple (h c (List.mem_singleton.2 rfl))
      exact ⟨by rw [hform], hlatin⟩

theorem lowerAt_of_simple {before rest : List Char} {c : Char}
    (h : ∀ d ∈ lowerAt before c rest, isSimpleLetter d = true) :
    lowerAt before c rest = [c.toLower] ∧ isLatin c = true := by
  simp only [lowerAt] at h ⊢
  split at h
  · have hform := h _ (List.mem_singleton.2 rfl)
    split at hform <;> exact absurd hform (by decide)
  · rename_i hc
    rw [if_neg hc]
    exact lowerChar_of_simple h

theorem lowerAfter_of_simple {before cs : List Char}
    (h : ∀ d ∈ lowerAfter before cs, isSimpleLetter d = true) :
    lowerAfter before cs = cs.map Char.toLower ∧ ∀ c ∈ cs, isLatin c = true := by
  induction cs generalizing before with
  | nil => exact ⟨rfl, by simp⟩
  | cons c cs ih =>
    rw [lowerAfter_cons] at h ⊢
    obtain ⟨hform, hlatin⟩ := lowerAt_of_simple fun d hd => h d (List.mem_append_left _ hd)
    obtain ⟨hforms, hlatins⟩ := ih fun d hd => h d (List.mem_append_right _ hd)
    rw [hform, hforms]
    exact ⟨rfl, by simpa using ⟨hlatin, hlatins⟩⟩

/-- The two ways agree on texts with nothing but simple letters in their lower-case form, and all
characters of such texts are letters of ASCII. -/
theorem lower_of_simple {cs : List Char} (h : ∀ d ∈ lower cs, isSimpleLetter d = true) :
    lower cs = cs.map Char.toLower ∧ ∀ c ∈ cs, isLatin c = true :=
  lowerAfter_of_simple h

/-- A text that is a word of simple letters but for its case has nothing but letters. -/
theorem latin_of_lowered {s word : String} (h : lowered s = word)
    (hword : word.toList.all isSimpleLetter = true) : ∀ c ∈ s.toList, isLatin c = true := by
  have hlower : lower s.toList = word.toList := by
    rw [← h]
    exact (String.toList_ofList).symm
  exact (lower_of_simple (hlower ▸ List.all_eq_true.1 hword)).2

/-! ### The case of ASCII letters -/

theorem isUpper_of_settled {c : Char} (h : Settled c) : c.isUpper = false := by
  by_cases hcapital : 65 ≤ c.toNat ∧ c.toNat ≤ 90
  · have hmoved : lowerChar c ≠ [c] := by
      refine of_run 65 26 c (by omega) ?_
      decide +kernel
    exact absurd h.lowerChar_eq hmoved
  · refine Bool.eq_false_iff.2 fun hupper => hcapital ?_
    have hrange : 'A'.val ≤ c.val ∧ c.val ≤ 'Z'.val := of_decide_eq_true hupper
    exact hrange

/-- The case of a letter of ASCII makes no difference to its lower-case form, nor to that of its
neighbours. -/
theorem lowerChar_toLower (c : Char) :
    lowerChar c.toLower = lowerChar c ∧ (c.toLower == capitalSigma) = (c == capitalSigma) ∧
      caseIgnorableSpans.holds c.toLower.toNat = caseIgnorableSpans.holds c.toNat ∧
      casedSpans.holds c.toLower.toNat = casedSpans.holds c.toNat := by
  by_cases hcapital : 65 ≤ c.toNat ∧ c.toNat ≤ 90
  · refine of_run 65 26 c (by omega) ?_
    decide +kernel
  · rw [toLower_eq_self hcapital]
    exact ⟨rfl, rfl, rfl, rfl⟩

theorem meetsCased_map_toLower (cs : List Char) : meetsCased (cs.map Char.toLower) = meetsCased cs := by
  induction cs with
  | nil => rfl
  | cons c cs ih =>
    obtain ⟨-, -, hignorable, hcased⟩ := lowerChar_toLower c
    simp only [meetsCased, List.map_cons, List.dropWhile_cons, hignorable] at ih ⊢
    by_cases hc : caseIgnorableSpans.holds c.toNat = true
    · rw [if_pos hc, if_pos hc]
      exact ih
    · rw [if_neg hc, if_neg hc]
      exact hcased

theorem endsWord_map_toLower (before after : List Char) :
    endsWord (before.map Char.toLower) (after.map Char.toLower) = endsWord before after := by
  simp only [endsWord]
  rw [meetsCased_map_toLower, meetsCased_map_toLower]

theorem lowerAt_map_toLower (before : List Char) (c : Char) (rest : List Char) :
    lowerAt (before.map Char.toLower) c.toLower (rest.map Char.toLower) = lowerAt before c rest := by
  obtain ⟨hform, hsigma, -, -⟩ := lowerChar_toLower c
  simp only [lowerAt]
  rw [hsigma, hform, endsWord_map_toLower]

theorem lowerAfter_map_toLower (before cs : List Char) :
    lowerAfter (before.map Char.toLower) (cs.map Char.toLower) = lowerAfter before cs := by
  induction cs generalizing before with
  | nil => rfl
  | cons c cs ih =>
    have hrest := ih (c :: before)
    rw [List.map_cons] at hrest
    rw [List.map_cons, lowerAfter_cons, lowerAfter_cons, lowerAt_map_toLower, hrest]

/-- Texts that differ in the case of ASCII letters only have one lower-case form. -/
theorem lower_map_toLower (cs : List Char) : lower (cs.map Char.toLower) = lower cs :=
  lowerAfter_map_toLower [] cs

end Roster.Text
