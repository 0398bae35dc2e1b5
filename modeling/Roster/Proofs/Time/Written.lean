import Roster.Proofs.Steps
import Roster.Proofs.Text.Digits
import Roster.Proofs.Time.Calendar

/-!
# Moments as they are written

Every moment is read back from its text, whatever its year and even in a leap second.

* `Timestamp.digits_append` says what a number in front of something else is read as, and the lemmas
  after it follow the parts of a text: year, date, clock and places of the second.
* `Timestamp.ofText_text` puts them together.
-/

namespace Roster.Time.Timestamp

open Roster.Text

/-! ### Numbers -/

/-- Digits in front of something else are read as their number, if they fill the width or end there. -/
theorem digits_append {w : Nat} {ds rest : List Char} (hne : ds ≠ [])
    (hd : ∀ c ∈ ds, isDigit c = true) (hw : ds.length = w ∨ ds.length ≤ w ∧ EndsDigits rest)
    (hmax : ofDecimal ds ≤ numberMax) : digits w (ds ++ rest) = .ok (ofDecimal ds, rest) := by
  have htake : ((ds ++ rest).take w).takeWhile isDigit = ds := by
    rcases hw with rfl | ⟨hle, hends⟩
    · rw [List.take_left' rfl]
      have h := takeWhile_digits hd endsDigits_nil
      rwa [List.append_nil] at h
    · rw [List.take_append, List.take_of_length_le hle]
      apply takeWhile_digits hd
      intro c hc
      cases rest with
      | nil => simp at hc
      | cons b rest =>
        cases hk : w - ds.length with
        | zero => rw [hk] at hc; cases hc
        | succ k =>
          rw [hk] at hc
          exact hends c hc
  have hcs : (ds ++ rest).isEmpty = false := by
    cases ds with
    | nil => exact absurd rfl hne
    | cons c ds => rfl
  have hds : ds.isEmpty = false := by
    cases ds with
    | nil => exact absurd rfl hne
    | cons c ds => rfl
  simp only [digits]
  simp only [htake, hcs, hds, Bool.false_eq_true, ↓reduceIte, if_neg (Nat.not_lt.2 hmax),
    List.drop_left']

theorem digits_padded {w n : Nat} (hw : 0 < w) (hn : n < Nat.pow 10 w) (hmax : n ≤ numberMax)
    (rest : List Char) : digits w (decimalPadded w n ++ rest) = .ok (n, rest) := by
  have h : digits w (decimalPadded w n ++ rest) = _ := digits_append (decimalPadded_ne_nil w n)
    (fun c hc => isDigit_of_mem_decimalPadded hc) (Or.inl (length_decimalPadded hw hn))
    (by rw [ofDecimal_decimalPadded]; exact hmax)
  rwa [ofDecimal_decimalPadded] at h

theorem blanks_eq {cs : List Char} (h : ∀ c, cs.head? = some c → isBlank c = false) :
    blanks cs = .ok ((), cs) := by
  simp only [blanks, trimLeft]
  cases cs with
  | nil => rfl
  | cons c cs => rw [List.dropWhile_cons_of_neg (by simp [h c rfl])]

theorem blanks_of_digits {ds : List Char} (hne : ds ≠ []) (hd : ∀ c ∈ ds, isDigit c = true)
    (rest : List Char) : blanks (ds ++ rest) = .ok ((), ds ++ rest) := by
  apply blanks_eq
  intro c hc
  cases ds with
  | nil => exact absurd rfl hne
  | cons d ds =>
    cases hc
    exact not_blank_of_isDigit (hd _ List.mem_cons_self)

theorem field_padded {low high n : Nat} (hlow : low ≤ n) (hhigh : n ≤ high) (h : high < 100)
    (rest : List Char) : field low high (decimalPadded 2 n ++ rest) = .ok (n, rest) := by
  simp only [field]
  rw [bind_of_ok (blanks_of_digits (decimalPadded_ne_nil 2 n)
      (fun c hc => isDigit_of_mem_decimalPadded hc) rest),
    bind_of_ok (digits_padded (by decide) (show n < 100 by omega) (by unfold numberMax; omega) rest)]
  rw [if_pos (by simp [hlow, hhigh])]
  rfl

theorem mark_cons (c : Char) (rest : List Char) : mark c (c :: rest) = .ok ((), rest) := by
  simp [mark]

/-! ### Dates -/

theorem padded_append_ne {w n : Nat} {c : Char} (hc : isDigit c = false) (rest more : List Char) :
    decimalPadded w n ++ rest ≠ c :: more := by
  intro h
  obtain ⟨d, ds, hds⟩ := List.exists_cons_of_ne_nil (decimalPadded_ne_nil w n)
  have hd : isDigit d = true := isDigit_of_mem_decimalPadded (hds ▸ List.mem_cons_self)
  rw [hds] at h
  injection h with h _
  rw [h, hc] at hd
  cases hd

/-- A year with a sign is read up to its last digit. -/
theorem digits_of_length {n : Nat} (hmax : n ≤ numberMax) {rest : List Char} (hr : EndsDigits rest) :
    digits (decimalPadded 4 n ++ rest).length (decimalPadded 4 n ++ rest) = .ok (n, rest) := by
  have h := digits_append (w := (decimalPadded 4 n ++ rest).length) (decimalPadded_ne_nil 4 n)
    (fun c hc => isDigit_of_mem_decimalPadded hc)
    (Or.inr ⟨by rw [List.length_append]; omega, hr⟩) (by rw [ofDecimal_decimalPadded]; exact hmax)
  rwa [ofDecimal_decimalPadded] at h

theorem year_text {y : Int} (hlow : firstYear ≤ y) (hhigh : y ≤ lastYear) {rest : List Char}
    (hr : EndsDigits rest) : year (yearText y ++ rest) = .ok (y, rest) := by
  simp only [firstYear] at hlow
  simp only [lastYear] at hhigh
  have hrange : (decide (-0x80000000 ≤ y) && decide (y < 0x80000000)) = true := by
    rw [Bool.and_eq_true, decide_eq_true_eq, decide_eq_true_eq]
    omega
  have hmax : y.natAbs ≤ numberMax := by unfold numberMax; omega
  simp only [yearText]
  split
  · rename_i hfour
    have hy : 0 ≤ y ∧ y ≤ 9999 := by simpa using hfour
    have hcast : ((y.natAbs : Nat) : Int) = y := by omega
    have hdigits := digits_padded (w := 4) (by decide) (show y.natAbs < 10000 by omega) hmax rest
    simp only [year]
    rw [bind_of_ok (blanks_of_digits (decimalPadded_ne_nil 4 _)
      (fun c hc => isDigit_of_mem_decimalPadded hc) rest), bind_of_ok (t := _) (a := _) rfl]
    generalize hcs : decimalPadded 4 y.natAbs ++ rest = cs at hdigits
    split
    · exact absurd hcs (padded_append_ne (by decide) _ _)
    · exact absurd hcs (padded_append_ne (by decide) _ _)
    · rw [bind_of_ok hdigits, bind_of_ok (a := y) (t := rest) (by rw [hcast]; rfl)]
      simp only [if_pos hrange]
      rfl
  · rw [List.cons_append]
    have hdigits := digits_of_length hmax hr
    have hblank : blanks ((if y < 0 then '-' else '+') :: (decimalPadded 4 y.natAbs ++ rest)) =
        .ok ((), (if y < 0 then '-' else '+') :: (decimalPadded 4 y.natAbs ++ rest)) := by
      apply blanks_eq
      intro c hc
      cases hc
      split <;> decide
    simp only [year]
    rw [bind_of_ok hblank, bind_of_ok (t := _) (a := _) rfl]
    split
    · rename_i hneg
      have hcast : -((y.natAbs : Nat) : Int) = y := by omega
      show (set _ >>= _ : Step Int) _ = _
      rw [bind_of_ok (a := ⟨⟩) (t := decimalPadded 4 y.natAbs ++ rest) rfl, bind_of_ok hdigits,
        bind_of_ok (a := y) (t := rest) (by rw [hcast]; rfl)]
      simp only [if_pos hrange]
      rfl
    · rename_i hpos
      have hcast : ((y.natAbs : Nat) : Int) = y := by omega
      show (set _ >>= _ : Step Int) _ = _
      rw [bind_of_ok (a := ⟨⟩) (t := decimalPadded 4 y.natAbs ++ rest) rfl, bind_of_ok hdigits,
        bind_of_ok (a := y) (t := rest) (by rw [hcast]; rfl)]
      simp only [if_pos hrange]
      rfl

theorem blanks_cons {c : Char} (h : isBlank c = false) (rest : List Char) :
    blanks (c :: rest) = .ok ((), c :: rest) := by
  apply blanks_eq
  intro d hd
  cases hd
  exact h

/-- A date of the calendar is read back from its text. -/
theorem date_text {d : Date} (h : d.isValid = true) (rest : List Char) :
    date (dateText d ++ rest) = .ok (d, rest) := by
  simp only [Date.isValid, Bool.and_eq_true, decide_eq_true_eq] at h
  obtain ⟨⟨⟨⟨⟨hlow, hhigh⟩, hm1⟩, hm12⟩, hd1⟩, hdays⟩ := h
  have hd31 : d.day ≤ 31 := by
    simp only [daysInMonth] at hdays
    split at hdays
    · split at hdays <;> omega
    · split at hdays <;> omega
  have hyear := year_text hlow hhigh
    (endsDigits_cons (c := '-') (by decide) (decimalPadded 2 d.month ++ '-' ::
      (decimalPadded 2 d.day ++ rest)))
  simp only [date, dateText]
  simp only [List.append_assoc, List.cons_append]
  rw [bind_of_ok hyear, bind_of_ok (blanks_cons (by decide) _), bind_of_ok (mark_cons _ _),
    bind_of_ok (field_padded hm1 hm12 (by decide) _), bind_of_ok (blanks_cons (by decide) _),
    bind_of_ok (mark_cons _ _), bind_of_ok (field_padded hd1 hd31 (by decide) _)]
  rfl

/-! ### Clocks -/

theorem fraction_of_places {k v : Nat} (hk : 0 < k ∧ k ≤ 9) (hv : v < Nat.pow 10 k) (more : List Char) :
    fraction ('.' :: decimalPadded k v ++ 'Z' :: more) =
      .ok (v * Nat.pow 10 (9 - k), 'Z' :: more) := by
  have hends : EndsDigits ('Z' :: more) := endsDigits_cons (by decide) more
  have hlength := length_decimalPadded hk.1 hv
  have hmax : v ≤ numberMax := by
    have : Nat.pow 10 k ≤ 1000000000 := Nat.pow_le_pow_right (by decide) hk.2
    simp only [numberMax]
    omega
  have hdigits := digits_append (w := 9) (decimalPadded_ne_nil k v)
    (fun c hc => isDigit_of_mem_decimalPadded hc) (Or.inr ⟨by omega, hends⟩)
    (by rw [ofDecimal_decimalPadded]; exact hmax)
  rw [ofDecimal_decimalPadded] at hdigits
  have hdrop : ('Z' :: more).dropWhile isDigit = 'Z' :: more :=
    List.dropWhile_cons_of_neg (by decide)
  have hcount : (decimalPadded k v ++ 'Z' :: more).length - ('Z' :: more).length = k := by
    rw [List.length_append, hlength]
    omega
  simp only [fraction]
  rw [bind_of_ok (t := _) (a := _) rfl]
  show (set _ >>= _ : Step Nat) _ = _
  rw [bind_of_ok (a := ⟨⟩) (t := decimalPadded k v ++ 'Z' :: more) rfl, bind_of_ok hdigits,
    bind_of_ok (a := 'Z' :: more) (t := 'Z' :: more) rfl,
    bind_of_ok (a := ⟨⟩) (t := 'Z' :: more) (by rw [hdrop]; rfl)]
  show Except.ok (v * Nat.pow 10 (9 - ((decimalPadded k v ++ 'Z' :: more).length -
    ('Z' :: more).length)), _) = _
  rw [hcount]

/-- The places of a second are read back from their text. -/
theorem fraction_text {n : Nat} (hn : n < nanosPerSecond) (more : List Char) :
    fraction (fractionText n ++ 'Z' :: more) = .ok (n, 'Z' :: more) := by
  simp only [nanosPerSecond] at hn
  simp only [fractionText]
  split
  · rename_i h
    rw [h]
    rfl
  · split
    · rename_i h
      have hmillis : n / 1000000 * 1000000 = n := by omega
      rw [fraction_of_places (k := 3) ⟨by decide, by decide⟩ (show n / 1000000 < 1000 by omega)]
      show Except.ok (n / 1000000 * 1000000, _) = _
      rw [hmillis]
    · split
      · rename_i h
        have hmicros : n / 1000 * 1000 = n := by omega
        rw [fraction_of_places (k := 6) ⟨by decide, by decide⟩ (show n / 1000 < 1000000 by omega)]
        show Except.ok (n / 1000 * 1000, _) = _
        rw [hmicros]
      · rw [fraction_of_places (k := 9) ⟨by decide, by decide⟩ hn]
        show Except.ok (n * 1, _) = _
        rw [Nat.mul_one]

theorem clock_text {h m s n : Nat} (hh : h ≤ 23) (hm : m ≤ 59) (hs : s ≤ 60)
    (hn : n < nanosPerSecond) (more : List Char) :
    clock (decimalPadded 2 h ++ ':' :: (decimalPadded 2 m ++ ':' :: (decimalPadded 2 s ++
      (fractionText n ++ 'Z' :: more)))) = .ok (⟨h, m, s, n⟩, 'Z' :: more) := by
  simp only [clock]
  rw [bind_of_ok (field_padded (Nat.zero_le h) hh (by decide) _),
    bind_of_ok (blanks_cons (by decide) _), bind_of_ok (mark_cons _ _),
    bind_of_ok (field_padded (Nat.zero_le m) hm (by decide) _),
    bind_of_ok (blanks_cons (by decide) _), bind_of_ok (mark_cons _ _),
    bind_of_ok (field_padded (Nat.zero_le s) hs (by decide) _), bind_of_ok (fraction_text hn more)]
  rfl

/-! ### Moments -/

/-- The parts of a moment: its date, and the time of the day as it is written. -/
theorem parts_text {d : Date} (hd : d.isValid = true) {h m s n : Nat} (hh : h ≤ 23) (hm : m ≤ 59)
    (hs : s ≤ 60) (hn : n < nanosPerSecond) :
    parts (dateText d ++ 'T' :: decimalPadded 2 h ++ ':' :: decimalPadded 2 m ++
      ':' :: decimalPadded 2 s ++ fractionText n ++ ['Z']) = .ok ((d, ⟨h, m, s, n⟩, 0), []) := by
  simp only [parts]
  simp only [List.append_assoc, List.cons_append]
  rw [bind_of_ok (date_text hd _), bind_of_ok (a := ()) (t := _) rfl,
    bind_of_ok (clock_text hh hm hs hn []), bind_of_ok (blanks_cons (by decide) _),
    bind_of_ok (a := (0 : Int)) (t := []) rfl]
  rfl

/-- A moment lies on a day of the calendar. -/
theorem isValid_date (t : Timestamp) : (Date.ofDays (t.seconds / secondsPerDay)).isValid = true := by
  have hfirst := t.first_le
  have hlast := t.le_last
  simp only [firstSecond, secondsPerDay] at hfirst
  simp only [lastSecond, secondsPerDay] at hlast
  simp only [secondsPerDay]
  exact Date.isValid_ofDays (by omega) (by omega)

theorem of?_self (t : Timestamp) : of? t.seconds t.nanos = some t := by
  simp only [of?]
  rw [dif_pos ⟨t.first_le, t.le_last, t.nanos_lt, t.leap_last⟩]

/-- The parts of a moment make the moment, the second 60 standing for a leap second. -/
theorem ofParts_self (t : Timestamp) {i second nanos : Nat}
    (hi : (i : Int) = t.seconds % secondsPerDay)
    (hleap : nanosPerSecond ≤ t.nanos → second = 60 ∧ nanos + nanosPerSecond = t.nanos)
    (hplain : ¬ nanosPerSecond ≤ t.nanos → second = i % 60 ∧ nanos = t.nanos) :
    ofParts (Date.ofDays (t.seconds / secondsPerDay)) ⟨i / 3600, i / 60 % 60, second, nanos⟩ 0 =
      .ok t := by
  have hseconds := Int.mul_ediv_add_emod t.seconds secondsPerDay
  have hlast := t.leap_last
  simp only [secondsPerDay] at hi hseconds
  simp only [ofParts]
  rw [isValid_date t, Date.toDays_ofDays]
  rw [if_neg (by decide)]
  by_cases h : nanosPerSecond ≤ t.nanos
  · obtain ⟨hs, hn⟩ := hleap h
    have hlast' := hlast h
    have hsum : t.seconds / secondsPerDay * secondsPerDay +
        (((i / 3600 * 60 + i / 60 % 60) * 60 + 59 : Nat) : Int) - 0 = t.seconds := by
      simp only [secondsPerDay]
      omega
    simp only [hs, ↓reduceIte, hn, hsum, of?_self]
  · obtain ⟨hs, hn⟩ := hplain h
    have hs60 : second ≠ 60 := by omega
    have hsum : t.seconds / secondsPerDay * secondsPerDay +
        (((i / 3600 * 60 + i / 60 % 60) * 60 + second : Nat) : Int) - 0 = t.seconds := by
      simp only [secondsPerDay]
      omega
    simp only [hs60, ↓reduceIte, hn, hsum, of?_self]

/-- **Moments survive writing.**  The text of a moment denotes the moment: in every year, to the
nanosecond, and in a leap second. -/
theorem ofText_text (t : Timestamp) : ofText t.text = .ok t := by
  obtain ⟨i, hi⟩ : ∃ i, i = (t.seconds % secondsPerDay).toNat := ⟨_, rfl⟩
  have hi' : (i : Int) = t.seconds % secondsPerDay := by
    rw [hi]
    exact Int.toNat_of_nonneg (Int.emod_nonneg _ (by decide))
  have hday : i < 86400 := by
    simp only [secondsPerDay] at hi'
    omega
  have hnanos := t.nanos_lt
  simp only [ofText, text]
  simp only [← hi]
  by_cases h : nanosPerSecond ≤ t.nanos
  · have hparts := parts_text (isValid_date t) (h := i / 3600) (m := i / 60 % 60) (s := 60)
      (n := t.nanos - nanosPerSecond) (by omega) (by omega) (by decide) (by omega)
    simp only [if_pos h, hparts]
    exact ofParts_self t hi' (fun _ => ⟨rfl, Nat.sub_add_cancel h⟩) (fun hn => absurd h hn)
  · have hparts := parts_text (isValid_date t) (h := i / 3600) (m := i / 60 % 60) (s := i % 60)
      (n := t.nanos) (by omega) (by omega) (by omega) (by omega)
    simp only [if_neg h, hparts]
    exact ofParts_self t hi' (fun hn => absurd hn h) (fun _ => ⟨rfl, rfl⟩)

end Roster.Time.Timestamp
