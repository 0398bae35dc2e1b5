import Roster.Time.Timestamp

/-!
# Days and dates

Every day has a date that occurs in the calendar, and the date gives the day back.

* `Date.YearSplit` takes a day of four centuries apart: the century, the four years in it, the year of
  these and the day of the year, where years begin in March.
* `Date.ofYearDay` is the date of such a day; `ofDays_eq` says that the calendar computes it.
* `Date.toDays_ofDays` and `Date.isValid_ofDays` are the results.
-/

namespace Roster.Time.Date

/-! ### Taking days of four centuries apart -/

/-- A day of four centuries is a day of a year of four years of a century. A year has a 366th day only
if it is the last of its four, and in the last four of a century only if the century is the last. -/
structure YearSplit (days century quad year day : Int) : Prop where
  century_bounds : 0 ≤ century ∧ century ≤ 3
  quad_bounds : 0 ≤ quad ∧ quad ≤ 24
  year_bounds : 0 ≤ year ∧ year ≤ 3
  day_bounds : 0 ≤ day ∧ day ≤ 365
  leap_day : day = 365 → year = 3 ∧ (quad = 24 → century = 3)
  days_eq : days = 36524 * century + 1461 * quad + 365 * year + day

theorem YearSplit.leap_years {days century quad year day : Int}
    (h : YearSplit days century quad year day) :
    (100 * century + 4 * quad + year) / 4 = 25 * century + quad ∧
      (100 * century + 4 * quad + year) / 100 = century := by
  have hquad := h.quad_bounds
  have hyear := h.year_bounds
  constructor
  · omega
  · omega

/-- The year that the calendar computes for a day is the one of its split. -/
theorem exists_yearSplit {e : Int} (h0 : 0 ≤ e) (h1 : e < 146097) :
    ∃ g q w d, YearSplit e g q w d ∧
      (e - e / 1460 + e / 36524 - e / 146096) / 365 = 100 * g + 4 * q + w := by
  by_cases hlast : e = 146096
  · subst hlast
    exact ⟨3, 24, 3, 365, ⟨by decide, by decide, by decide, by decide, by decide, by decide⟩,
      by decide⟩
  · obtain ⟨g, hg⟩ : ∃ g, g = e / 36524 := ⟨_, rfl⟩
    obtain ⟨q, hq⟩ : ∃ q, q = (e - 36524 * g) / 1461 := ⟨_, rfl⟩
    obtain ⟨t, ht⟩ : ∃ t, t = e - 36524 * g - 1461 * q := ⟨_, rfl⟩
    have hgb : 0 ≤ g ∧ g ≤ 3 := by omega
    have hqb : 0 ≤ q ∧ q ≤ 24 := by omega
    have htb : 0 ≤ t ∧ t ≤ 1460 := by omega
    have htq : t = 1460 → q ≤ 23 := by omega
    have he : e = 36524 * g + 1461 * q + t := by omega
    have hera : e / 146096 = 0 := by omega
    -- The leap days so far and the day itself decide whether one more is taken off.
    by_cases hs : 24 * g + q + t < 1460
    · have hf : e / 1460 = 25 * g + q := by omega
      refine ⟨g, q, t / 365, t % 365, ⟨hgb, hqb, ?_, ?_, ?_, ?_⟩, ?_⟩
      · omega
      · omega
      · omega
      · omega
      · rw [hf, ← hg, hera]
        omega
    · have hf : e / 1460 = 25 * g + q + 1 := by omega
      refine ⟨g, q, (t - 1) / 365, (t - 1) % 365 + 1, ⟨hgb, hqb, ?_, ?_, ?_, ?_⟩, ?_⟩
      · omega
      · omega
      · omega
      · omega
      · rw [hf, ← hg, hera]
        omega

/-! ### Days of a year -/

/-- The date of a day of a year, both counted from 1 March. -/
def ofYearDay (year day : Int) : Date :=
  let month := (5 * day + 2) / 153
  let dayOfMonth := day - (153 * month + 2) / 5 + 1
  if month < 10 then ⟨year, (month + 3).toNat, dayOfMonth.toNat⟩
  else ⟨year + 1, (month - 9).toNat, dayOfMonth.toNat⟩

/-- The year of the calendar begins with the 307th day. -/
theorem year_ofYearDay (year day : Int) :
    (ofYearDay year day).year = if day < 306 then year else year + 1 := by
  simp only [ofYearDay]
  by_cases h : day < 306
  · rw [if_pos h]
    simp only [show (5 * day + 2) / 153 < 10 by omega, ↓reduceIte]
  · rw [if_neg h]
    simp only [show ¬ (5 * day + 2) / 153 < 10 by omega, ↓reduceIte]

theorem toDays_ofYearDay (year : Int) {day : Int} (h0 : 0 ≤ day) (h1 : day ≤ 365) :
    (ofYearDay year day).toDays =
      year / 400 * daysInEra + (year % 400 * 365 + year % 400 / 4 - year % 400 / 100 + day) -
        epochShift := by
  obtain ⟨m, hm⟩ : ∃ m, m = (5 * day + 2) / 153 := ⟨_, rfl⟩
  have hday : 0 ≤ day - (153 * m + 2) / 5 := by omega
  simp only [ofYearDay]
  simp only [← hm]
  split
  · have hmonth : ((m + 3).toNat : Int) = m + 3 := Int.toNat_of_nonneg (by omega)
    have hlate : ¬ (m + 3).toNat ≤ 2 := by omega
    simp only [toDays]
    simp only [if_neg hlate, hmonth]
    rw [Int.toNat_of_nonneg (by omega), show m + 3 - 3 = m by omega]
    omega
  · have hmonth : ((m - 9).toNat : Int) = m - 9 := Int.toNat_of_nonneg (by omega)
    have hearly : (m - 9).toNat ≤ 2 := by omega
    simp only [toDays]
    simp only [if_pos hearly, hmonth]
    rw [Int.toNat_of_nonneg (by omega), show m - 9 + 9 = m by omega,
      show year + 1 - 1 = year by omega]
    omega

/-- A day of a year lies in one of its twelve months, with a 29 February only in leap years. -/
theorem ofYearDay_bounds {year day : Int} (h0 : 0 ≤ day) (h1 : day ≤ 365)
    (hleap : day = 365 → isLeap (year + 1) = true) :
    (1 ≤ (ofYearDay year day).month ∧ (ofYearDay year day).month ≤ 12) ∧
      1 ≤ (ofYearDay year day).day ∧
        (ofYearDay year day).day ≤
          daysInMonth (ofYearDay year day).year (ofYearDay year day).month := by
  obtain ⟨m, hm⟩ : ∃ m, m = (5 * day + 2) / 153 := ⟨_, rfl⟩
  simp only [ofYearDay]
  simp only [← hm]
  have hcases : m = 0 ∨ m = 1 ∨ m = 2 ∨ m = 3 ∨ m = 4 ∨ m = 5 ∨ m = 6 ∨ m = 7 ∨ m = 8 ∨ m = 9 ∨
      m = 10 ∨ m = 11 := by omega
  rcases hcases with h | h | h | h | h | h | h | h | h | h | h | h <;> subst h
  case inr.inr.inr.inr.inr.inr.inr.inr.inr.inr.inr =>
    rw [if_neg (by decide)]
    show (1 ≤ 2 ∧ 2 ≤ 12) ∧ 1 ≤ (day - (153 * 11 + 2) / 5 + 1).toNat ∧
      (day - (153 * 11 + 2) / 5 + 1).toNat ≤ if isLeap (year + 1) then 29 else 28
    by_cases hd : day = 365
    · rw [if_pos (hleap hd)]
      omega
    · split <;> omega
  all_goals
    simp [daysInMonth]
    omega

/-! ### All days -/

theorem ofDays_eq (days : Int) : ∃ century quad year day,
    YearSplit ((days + epochShift) % daysInEra) century quad year day ∧
      ofDays days = ofYearDay
        (100 * century + 4 * quad + year + (days + epochShift) / daysInEra * 400) day := by
  have hpos : (0 : Int) < daysInEra := by decide
  obtain ⟨g, q, w, d, h, hyear⟩ := exists_yearSplit
    (Int.emod_nonneg (days + epochShift) (Int.ne_of_gt hpos)) (Int.emod_lt_of_pos _ hpos)
  refine ⟨g, q, w, d, h, ?_⟩
  have hday : (days + epochShift) % daysInEra - (365 * (100 * g + 4 * q + w) +
      (100 * g + 4 * q + w) / 4 - (100 * g + 4 * q + w) / 100) = d := by
    have he := h.days_eq
    rw [h.leap_years.1, h.leap_years.2]
    omega
  simp only [ofDays, ofYearDay]
  simp only [hyear, hday]

/-- The date of a day gives the day back. -/
theorem toDays_ofDays (days : Int) : (ofDays days).toDays = days := by
  obtain ⟨g, q, w, d, h, hdate⟩ := ofDays_eq days
  have hg := h.century_bounds
  have hq := h.quad_bounds
  have hw := h.year_bounds
  have he := h.days_eq
  have hera := Int.mul_ediv_add_emod (days + epochShift) daysInEra
  rw [hdate, toDays_ofYearDay _ h.day_bounds.1 h.day_bounds.2]
  have hyear : (100 * g + 4 * q + w + (days + epochShift) / daysInEra * 400) % 400 =
      100 * g + 4 * q + w := by omega
  have hyears : (100 * g + 4 * q + w + (days + epochShift) / daysInEra * 400) / 400 =
      (days + epochShift) / daysInEra := by omega
  rw [hyear, hyears]
  simp only [daysInEra] at *
  omega

/-- The day after the last of a year that is a 366th is in a leap year. -/
theorem isLeap_of_leap_day {e century quad year day : Int} (h : YearSplit e century quad year day)
    (hd : day = 365) (era : Int) :
    isLeap (100 * century + 4 * quad + year + era * 400 + 1) = true := by
  obtain ⟨hw, hlast⟩ := h.leap_day hd
  have hg := h.century_bounds
  have hq := h.quad_bounds
  simp only [isLeap]
  simp only [Bool.and_eq_true, Bool.or_eq_true, beq_iff_eq, bne_iff_ne]
  by_cases hquad : quad = 24
  · have hcentury := hlast hquad
    omega
  · omega

/-- The date of a day that moments can lie in occurs in the calendar. -/
theorem isValid_ofDays {days : Int} (hfirst : toDays ⟨firstYear, 1, 1⟩ ≤ days)
    (hlast : days ≤ toDays ⟨lastYear, 12, 31⟩) : (ofDays days).isValid = true := by
  obtain ⟨g, q, w, d, h, hdate⟩ := ofDays_eq days
  have hbounds := ofYearDay_bounds h.day_bounds.1 h.day_bounds.2
    (fun hd => isLeap_of_leap_day h hd ((days + epochShift) / daysInEra))
  have hyear : firstYear ≤ (ofDays days).year ∧ (ofDays days).year ≤ lastYear := by
    have hfirst' : toDays ⟨firstYear, 1, 1⟩ = -96465292 := by decide
    have hlast' : toDays ⟨lastYear, 12, 31⟩ = 95026236 := by decide
    have hg := h.century_bounds
    have hq := h.quad_bounds
    have hw := h.year_bounds
    have hd := h.day_bounds
    have he := h.days_eq
    have hera := Int.mul_ediv_add_emod (days + epochShift) daysInEra
    rw [hdate]
    generalize (days + epochShift) / daysInEra = era at *
    generalize (days + epochShift) % daysInEra = e at *
    simp only [daysInEra, epochShift] at hera
    rw [year_ofYearDay]
    simp only [firstYear, lastYear]
    clear hbounds
    have hcenturies : g = 0 ∨ g = 1 ∨ g = 2 ∨ g = 3 := by omega
    have heras : era ≤ 654 ∨ era = 655 := by omega
    rcases heras with hera' | rfl <;> rcases hcenturies with rfl | rfl | rfl | rfl <;> split <;> omega
  simp only [isValid, Bool.and_eq_true, decide_eq_true_eq]
  rw [hdate] at hyear ⊢
  exact ⟨⟨⟨⟨⟨hyear.1, hyear.2⟩, hbounds.1.1⟩, hbounds.1.2⟩, hbounds.2.1⟩, hbounds.2.2⟩

end Roster.Time.Date
