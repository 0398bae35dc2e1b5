import Roster.Proofs.Json.Printed
import Roster.Proofs.Json.Skipped

/-!
# Natural numbers that are read

A reader of natural numbers takes white space and then the digits of a number of 64 bits, without a
needless zero in front and with neither places nor an exponent after them.

* `float_of_placesPart` and `float_of_exponentPart` say that places or an exponent make a float.
* `natural_eq_ok` says what the reader accepts.
-/

namespace Roster.Json

open Roster.Number Roster.Text

/-- A natural number of 64 bits. -/
def NaturalAt (cs : List Char) (n : Nat) (rest : List Char) : Prop :=
  skipBlanks cs = decimal n ++ rest ∧ n ≤ wordMax ∧ EndsNumber rest

theorem NaturalAt.length_le {cs rest : List Char} {n : Nat} (h : NaturalAt cs n rest) :
    rest.length ≤ cs.length := by
  have hblanks := length_skipBlanks_le cs
  rw [h.1, List.length_append] at hblanks
  exact Nat.le_trans (Nat.le_add_left _ _) hblanks

theorem naturalAt_skipBlanks {cs rest : List Char} {n : Nat} :
    NaturalAt (skipBlanks cs) n rest ↔ NaturalAt cs n rest := by
  simp only [NaturalAt, skipBlanks_skipBlanks]

/-! ### Floats -/

theorem scaled_map_eq_ok {negative : Bool} {significand : Nat} {power : Int} {cs rest : List Char}
    {x : Numeral}
    (h : ((scaled negative significand power).map fun f => (Numeral.float f, cs)) = .ok (x, rest)) :
    ∃ f, x = .float f := by
  cases hs : scaled negative significand power with
  | error e =>
    rw [hs] at h
    cases h
  | ok f =>
    rw [hs] at h
    cases h
    exact ⟨f, rfl⟩

theorem float_of_exponentPart {negative : Bool} {significand : Nat} {power : Int}
    {cs rest : List Char} {x : Numeral}
    (h : exponentPart negative significand power cs = .ok (x, rest)) : ∃ f, x = .float f := by
  simp only [exponentPart] at h
  -- The three signs that an exponent may have.
  split at h
  all_goals
    split at h
    · cases h
    · split at h
      · split at h
        · cases h
        · cases h
          exact ⟨_, rfl⟩
      · exact scaled_map_eq_ok h

theorem float_of_placesPart {negative : Bool} {significand : Nat} {power : Int}
    {cs rest : List Char} {x : Numeral}
    (h : placesPart negative significand power cs = .ok (x, rest)) : ∃ f, x = .float f := by
  simp only [placesPart] at h
  split at h
  · cases h
  · simp only [exponentOrEnd] at h
    split at h
    · exact float_of_exponentPart h
    · exact float_of_exponentPart h
    · exact scaled_map_eq_ok h

/-! ### Whole numbers -/

theorem takeDigits_eq {n count s k : Nat} {cs more : List Char}
    (h : takeDigits n count cs = (s, k, more)) (hn : n ≤ wordMax) :
    ∃ ds, cs = ds ++ more ∧ (∀ c ∈ ds, isDigit c = true) ∧ s = Nat.ofDigitChars 10 ds n ∧
      s ≤ wordMax := by
  induction cs generalizing n count with
  | nil =>
    cases h
    exact ⟨[], rfl, by simp, rfl, hn⟩
  | cons c cs ih =>
    simp only [takeDigits] at h
    split at h
    · rename_i hc
      obtain ⟨hdigit, hle⟩ := Bool.and_eq_true_iff.1 hc
      obtain ⟨ds, rfl, hds, hs, hmax⟩ := ih h (of_decide_eq_true hle)
      refine ⟨c :: ds, rfl, ?_, ?_, hmax⟩
      · intro d hd
        rcases List.mem_cons.1 hd with rfl | hd
        · exact hdigit
        · exact hds d hd
      · rw [hs, Nat.ofDigitChars_cons, digitValue, Nat.mul_comm]
    · cases h
      exact ⟨[], rfl, by simp, rfl, hn⟩

theorem natural_of_wholeNumber {negative : Bool} {s n : Nat}
    (h : wholeNumber negative s = .natural n) : negative = false ∧ s = n := by
  unfold wholeNumber at h
  split at h
  · rename_i hsign
    cases h
    exact ⟨by simpa using hsign, rfl⟩
  · split at h <;> cases h

/-- The digits of a number and what stops them, as they are found in front of a text. -/
theorem digits_found {c : Char} {more left : List Char} {s k : Nat} (hdigit : isDigit c = true)
    (hzero : (c == '0' && more.head?.any isDigit) = false)
    (htake : takeDigits 0 0 (c :: more) = (s, k, left)) (hends : EndsDigits left) :
    c :: more = decimal s ++ left ∧ s ≤ wordMax := by
  obtain ⟨ds, hsplit, hds, hs, hmax⟩ := takeDigits_eq htake (Nat.zero_le _)
  cases ds with
  | nil =>
    rw [List.nil_append] at hsplit
    exact absurd hdigit (Bool.eq_false_iff.1 (hends c (by rw [← hsplit]; rfl)))
  | cons d ds =>
    obtain ⟨rfl, rfl⟩ := List.cons.inj hsplit
    have halone : c = '0' → ds = [] := by
      rintro rfl
      cases ds with
      | nil => rfl
      | cons e ds =>
        have he : isDigit e = true := hds e (by simp)
        simp [he] at hzero
    have hdecimal : decimal s = c :: ds := by
      rw [hs]
      exact decimal_ofDecimal hds halone
    exact ⟨by rw [hdecimal]; rfl, hmax⟩

theorem endsDigits_of_takeWhile {cs : List Char} (h : (cs.takeWhile isDigit).isEmpty = true) :
    EndsDigits cs ∧ cs.dropWhile isDigit = cs := by
  cases cs with
  | nil => exact ⟨endsDigits_nil, rfl⟩
  | cons c cs =>
    have hc : isDigit c = false := by
      refine Bool.eq_false_iff.2 fun hdigit => ?_
      rw [List.takeWhile_cons_of_pos hdigit] at h
      cases h
    exact ⟨endsDigits_cons hc cs, List.dropWhile_cons_of_neg (by simp [hc])⟩

/-- Digits that end without a point or the letter of an exponent end a whole number. -/
theorem endsNumber_of_digits {rest : List Char} (h : EndsDigits rest)
    (hpoint : ∀ more, rest = '.' :: more → False) (hsmall : ∀ more, rest = 'e' :: more → False)
    (hcapital : ∀ more, rest = 'E' :: more → False) : EndsNumber rest := by
  intro c hc
  obtain ⟨more, rfl⟩ := List.head?_eq_some_iff.1 hc
  refine ⟨h c rfl, ?_, ?_, ?_⟩
  · rintro rfl
    exact hpoint more rfl
  · rintro rfl
    exact hsmall more rfl
  · rintro rfl
    exact hcapital more rfl

theorem natural_of_unsignedNumber {negative : Bool} {cs rest : List Char} {n : Nat}
    (h : unsignedNumber negative cs = .ok (.natural n, rest)) :
    negative = false ∧ cs = decimal n ++ rest ∧ n ≤ wordMax ∧ EndsNumber rest := by
  have hfloat : ∀ {x : Numeral}, (∃ f, x = .float f) → x ≠ .natural n := by
    rintro x ⟨f, rfl⟩ hx
    cases hx
  unfold unsignedNumber at h
  split at h
  · cases h
  · rename_i c more
    split at h
    · cases h
    · rename_i hdigit
      split at h
      · cases h
      · rename_i hzero
        obtain ⟨s, k, left, htake⟩ : ∃ s k left, takeDigits 0 0 (c :: more) = (s, k, left) :=
          ⟨_, _, _, rfl⟩
        simp only [htake] at h
        split at h
        · exact absurd rfl (hfloat (float_of_placesPart h))
        · exact absurd rfl (hfloat (float_of_exponentPart h))
        · exact absurd rfl (hfloat (float_of_exponentPart h))
        · rename_i hpoint hsmall hcapital
          split at h
          · rename_i hextra
            obtain ⟨hwhole, hrest⟩ := Prod.mk.inj (Except.ok.inj h)
            obtain ⟨hsign, rfl⟩ := natural_of_wholeNumber hwhole
            obtain ⟨hends, hleft⟩ := endsDigits_of_takeWhile hextra
            rw [hleft] at hrest hpoint hsmall hcapital
            subst hrest
            obtain ⟨hdecimal, hmax⟩ :=
              digits_found (by simpa using hdigit) (by simpa using hzero) htake hends
            exact ⟨hsign, hdecimal, hmax, endsNumber_of_digits hends hpoint hsmall hcapital⟩
          · exact absurd rfl (hfloat (scaled_map_eq_ok h))

theorem number_eq_natural {cs rest : List Char} {n : Nat} :
    number cs = .ok (.natural n, rest) ↔ cs = decimal n ++ rest ∧ n ≤ wordMax ∧ EndsNumber rest := by
  constructor
  · intro h
    unfold number at h
    split at h
    · exact nomatch (natural_of_unsignedNumber h).1
    · exact (natural_of_unsignedNumber h).2
  · rintro ⟨rfl, hn, hends⟩
    exact number_of_le hn hends

/-- The reader of natural numbers accepts the numbers of 64 bits and nothing else. -/
theorem natural_eq_ok {expected : String} {depth n : Nat} {cs rest : List Char} :
    natural wordMax expected depth cs = .ok (n, rest) ↔ NaturalAt cs n rest := by
  simp only [NaturalAt, ← number_eq_natural, natural]
  split
  · cases hnumber : number (skipBlanks cs) with
    | error e => exact iff_of_false error_ne_ok error_ne_ok
    | ok r =>
      obtain ⟨x, more⟩ := r
      cases x with
      | natural m =>
        have hmax : m ≤ wordMax := (number_eq_natural.1 hnumber).2.1
        simp only [if_pos hmax, Except.ok.injEq, Prod.mk.injEq, Numeral.natural.injEq]
      | negative i =>
        refine iff_of_false error_ne_ok fun h => ?_
        cases h
      | float x =>
        refine iff_of_false error_ne_ok fun h => ?_
        cases h
  · rename_i hstarts
    refine iff_of_false error_ne_ok fun h => hstarts ?_
    obtain ⟨d, ds, hds⟩ := List.exists_cons_of_ne_nil (decimal_ne_nil n)
    have hd : isDigit d = true := isDigit_of_mem (hds ▸ List.mem_cons_self)
    rw [(number_eq_natural.1 h).1, hds]
    show (d == '-' || isDigit d) = true
    rw [hd, Bool.or_true]

end Roster.Json
