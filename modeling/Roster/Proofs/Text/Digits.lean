import Roster.Text.Blank
import Roster.Text.Digits

/-!
# Digits as they are written

What decimal digits look like to those who read them: none of them is blank, a padded number has the
length that it is padded to, and digits in front of something else are told apart from it.

* `length_decimalPadded`, `isDigit_of_mem_decimalPadded` and `ofDecimal_decimalPadded` describe padded
  numbers.
* `decimal_ofDecimal` says which digits are those of a number.
* `takeWhile_digits` and `dropWhile_digits` say where digits end.
* `natOfText?_latin` says that letters are no number.
-/

namespace Roster.Text

theorem isDigit_eq (c : Char) : isDigit c = c.isDigit := by
  rw [Bool.eq_iff_iff]
  simp only [isDigit, Char.isDigit, Bool.and_eq_true, decide_eq_true_eq]
  exact Iff.rfl

theorem not_blank_of_isDigit {c : Char} (h : isDigit c = true) : isBlank c = false := by
  simp only [isDigit, Bool.and_eq_true, decide_eq_true_eq] at h
  have hlow : 48 ≤ c.toNat := h.1
  have hhigh : c.toNat ≤ 57 := h.2
  simp only [isBlank, Bool.or_eq_false_iff, Bool.and_eq_false_iff, decide_eq_false_iff_not,
    beq_eq_false_iff_ne]
  omega

/-! ### Letters -/

theorem not_digit_of_latin {c : Char} (h : isLatin c = true) :
    isDigit c = false ∧ isBlank c = false := by
  have hrange : 65 ≤ c.toNat ∧ c.toNat ≤ 122 := by
    simp only [isLatin, Bool.or_eq_true, Bool.and_eq_true, decide_eq_true_eq] at h
    rcases h with ⟨hlow, hhigh⟩ | ⟨hlow, hhigh⟩
    · exact ⟨Nat.le_trans (by decide) hlow, hhigh⟩
    · exact ⟨hlow, Nat.le_trans hhigh (by decide)⟩
  constructor
  · simp only [isDigit, Bool.and_eq_false_iff, decide_eq_false_iff_not]
    exact .inr (Nat.not_le.2 (Nat.lt_of_lt_of_le (by decide) hrange.1))
  · simp only [isBlank, Bool.or_eq_false_iff, Bool.and_eq_false_iff, decide_eq_false_iff_not,
      beq_eq_false_iff_ne]
    omega

theorem natOfText?_latin {cs : List Char} (h : ∀ c ∈ cs, isLatin c = true) :
    natOfText? cs = none := by
  cases cs with
  | nil => rfl
  | cons c cs =>
    have hc := h c List.mem_cons_self
    have hplus : c ≠ '+' := by
      rintro rfl
      exact absurd hc (by decide)
    simp only [natOfText?]
    split
    · rename_i heq
      exact absurd (List.cons.inj heq).1 hplus
    · rw [if_neg (by simp [(not_digit_of_latin hc).1])]

/-! ### Numbers -/

theorem isDigit_of_mem {n : Nat} {c : Char} (h : c ∈ decimal n) : isDigit c = true := by
  rw [isDigit_eq]
  exact isDigit_of_mem_decimal h

theorem decimal_ne_nil (n : Nat) : decimal n ≠ [] := Nat.toDigits_ne_nil

/-- Only zero is written with a zero in front. -/
theorem head?_decimal_ne_zero {n : Nat} (h : 0 < n) : (decimal n).head? ≠ some '0' := by
  simp only [decimal]
  induction n using Nat.strongRecOn with
  | ind n ih =>
    by_cases hn : n < 10
    · have hall : ∀ n < 10, 0 < n → [n.digitChar].head? ≠ some '0' := by decide
      rw [Nat.toDigits_of_lt_base hn]
      exact hall n hn h
    · have hquot := ih (n / 10) (by omega) (by omega)
      rw [Nat.toDigits_of_base_le (by decide) (by omega), List.head?_append, Option.or_of_isSome
        (List.isSome_head?.2 Nat.toDigits_ne_nil)]
      exact hquot

theorem isDigit_of_mem_decimalPadded {width n : Nat} {c : Char} (h : c ∈ decimalPadded width n) :
    isDigit c = true := by
  simp only [decimalPadded, zeroPadded] at h
  rcases List.mem_append.1 h with h | h
  · rw [(List.mem_replicate.1 h).2]
    rfl
  · exact isDigit_of_mem h

theorem length_decimalPadded {width n : Nat} (hw : 0 < width) (hn : n < Nat.pow 10 width) :
    (decimalPadded width n).length = width := by
  have hlength : (decimal n).length ≤ width := (Nat.length_toDigits_le_iff (by decide) hw).2 hn
  simp only [decimalPadded, zeroPadded]
  rw [List.length_append, List.length_replicate]
  omega

theorem ofDecimal_decimalPadded (width n : Nat) : ofDecimal (decimalPadded width n) = n := by
  simp only [ofDecimal, decimalPadded, zeroPadded]
  rw [Nat.ofDigitChars_append, Nat.ofDigitChars_replicate_zero, Nat.mul_zero]
  exact ofDecimal_decimal n

theorem decimalPadded_ne_nil (width n : Nat) : decimalPadded width n ≠ [] := by
  simp only [decimalPadded, zeroPadded]
  intro h
  exact decimal_ne_nil n (List.append_eq_nil_iff.1 h).2

/-- Further digits make a number no smaller. -/
theorem le_ofDigitChars (ds : List Char) (n : Nat) : n ≤ Nat.ofDigitChars 10 ds n := by
  induction ds generalizing n with
  | nil => exact Nat.le_refl n
  | cons d ds ih =>
    rw [Nat.ofDigitChars_cons]
    exact Nat.le_trans (by omega) (ih _)

theorem digitChar_sub {d : Char} (h : isDigit d = true) :
    d.toNat - '0'.toNat < 10 ∧ (d.toNat - '0'.toNat).digitChar = d := by
  simp only [isDigit, Bool.and_eq_true, decide_eq_true_eq] at h
  have hlow : 48 ≤ d.toNat := h.1
  have hhigh : d.toNat ≤ 57 := h.2
  have hlt : d.toNat - '0'.toNat < 10 := by
    show d.toNat - 48 < 10
    omega
  refine ⟨hlt, Char.toNat_inj.1 ?_⟩
  rw [Nat.toNat_digitChar_of_lt_ten hlt]
  show 48 + (d.toNat - 48) = _
  omega

/-- Digits that follow those of a number other than zero are the further digits of a number. -/
theorem decimal_append {ds : List Char} (hd : ∀ c ∈ ds, isDigit c = true) {n : Nat} (hn : 0 < n) :
    decimal n ++ ds = decimal (Nat.ofDigitChars 10 ds n) := by
  induction ds generalizing n with
  | nil => simp
  | cons d ds ih =>
    obtain ⟨hlt, hchar⟩ := digitChar_sub (hd d List.mem_cons_self)
    have hnext : decimal n ++ [d] = decimal (10 * n + (d.toNat - '0'.toNat)) := by
      have happend := Nat.toDigits_append_toDigits (b := 10) (by decide) hn hlt
      rw [Nat.toDigits_of_lt_base hlt, hchar] at happend
      exact happend
    rw [Nat.ofDigitChars_cons, List.append_cons, hnext]
    exact ih (fun c hc => hd c (List.mem_cons_of_mem d hc)) (by omega)

/-- Digits without a needless zero in front are the digits of the number that they denote. -/
theorem decimal_ofDecimal {d : Char} {ds : List Char} (hd : ∀ c ∈ d :: ds, isDigit c = true)
    (hzero : d = '0' → ds = []) : decimal (ofDecimal (d :: ds)) = d :: ds := by
  obtain ⟨hlt, hchar⟩ := digitChar_sub (hd d List.mem_cons_self)
  have hfirst : decimal (d.toNat - '0'.toNat) = [d] := by
    rw [decimal, Nat.toDigits_of_lt_base hlt, hchar]
  rw [ofDecimal, Nat.ofDigitChars_cons, Nat.mul_zero, Nat.zero_add]
  by_cases hn : 0 < d.toNat - '0'.toNat
  · rw [← decimal_append (fun c hc => hd c (List.mem_cons_of_mem d hc)) hn, hfirst]
    rfl
  · have h0 : d.toNat - '0'.toNat = 0 := by omega
    have hd0 : d = '0' := by
      rw [← hchar, h0]
      rfl
    rw [hzero hd0, Nat.ofDigitChars_nil, hfirst]

/-- A text that does not go on with a digit. -/
def EndsDigits (rest : List Char) : Prop := ∀ c, rest.head? = some c → isDigit c = false

theorem endsDigits_nil : EndsDigits [] := by
  intro c h
  cases h

theorem endsDigits_cons {c : Char} (h : isDigit c = false) (rest : List Char) :
    EndsDigits (c :: rest) := by
  intro d hd
  cases hd
  exact h

theorem takeWhile_digits {ds rest : List Char} (hd : ∀ c ∈ ds, isDigit c = true)
    (hr : EndsDigits rest) : (ds ++ rest).takeWhile isDigit = ds := by
  rw [List.takeWhile_append_of_pos hd]
  cases rest with
  | nil => simp
  | cons c rest => rw [List.takeWhile_cons_of_neg (by simp [hr c rfl]), List.append_nil]

theorem dropWhile_digits {ds rest : List Char} (hd : ∀ c ∈ ds, isDigit c = true)
    (hr : EndsDigits rest) : (ds ++ rest).dropWhile isDigit = rest := by
  rw [List.dropWhile_append_of_pos hd]
  cases rest with
  | nil => rfl
  | cons c rest => rw [List.dropWhile_cons_of_neg (by simp [hr c rfl])]

end Roster.Text
