/-!
# Blank characters

The characters with the Unicode property `White_Space`, and what names, addresses and settings do
with them: cutting them from both ends of a text and telling a blank text from a written one.

* `isBlank` decides the property for a character.
* `trim` removes blank characters at both ends; `trim_trim` says a second time changes nothing.
* `trim_eq_nil_iff` says a text is all blank exactly when trimming leaves nothing.
-/

namespace Roster.Text

/-- The characters with the Unicode property `White_Space`. -/
def isBlank (c : Char) : Bool :=
  let n := c.toNat
  (0x09 ≤ n && n ≤ 0x0D) || n == 0x20 || n == 0x85 || n == 0xA0 || n == 0x1680
    || (0x2000 ≤ n && n ≤ 0x200A) || n == 0x2028 || n == 0x2029 || n == 0x202F
    || n == 0x205F || n == 0x3000

/-- The text without the blank characters it starts with. -/
def trimLeft (cs : List Char) : List Char := cs.dropWhile isBlank

/-- The text without the blank characters it ends with. -/
def trimRight (cs : List Char) : List Char := (cs.reverse.dropWhile isBlank).reverse

/-- The text without blank characters at either end. -/
def trim (cs : List Char) : List Char := trimRight (trimLeft cs)

/-- `trim` on strings. -/
def trimmed (s : String) : String := String.ofList (trim s.toList)

/-- Whether a string holds nothing but blank characters. -/
def allBlank (s : String) : Bool := (trim s.toList).isEmpty

/-! ### Trimming -/

theorem trimLeft_cons_of_blank {c : Char} {cs : List Char} (h : isBlank c = true) :
    trimLeft (c :: cs) = trimLeft cs := by
  simp [trimLeft, List.dropWhile, h]

theorem trimLeft_cons_of_not_blank {c : Char} {cs : List Char} (h : isBlank c = false) :
    trimLeft (c :: cs) = c :: cs := by
  simp [trimLeft, List.dropWhile, h]

theorem trimLeft_trimLeft (cs : List Char) : trimLeft (trimLeft cs) = trimLeft cs := by
  induction cs with
  | nil => rfl
  | cons c cs ih =>
    cases h : isBlank c with
    | true => rw [trimLeft_cons_of_blank h, ih]
    | false => rw [trimLeft_cons_of_not_blank h, trimLeft_cons_of_not_blank h]

theorem trimRight_eq_reverse (cs : List Char) :
    trimRight cs = (trimLeft cs.reverse).reverse := rfl

theorem trimRight_trimRight (cs : List Char) : trimRight (trimRight cs) = trimRight cs := by
  simp [trimRight_eq_reverse, trimLeft_trimLeft]

/-- A text whose first character is written keeps it under `trimRight`. -/
theorem trimRight_cons_of_not_blank {c : Char} {cs : List Char} (h : isBlank c = false) :
    ∃ ds, trimRight (c :: cs) = c :: ds := by
  have key : ∀ l : List Char, ∃ r, trimLeft (l ++ [c]) = r ++ [c] := by
    intro l
    induction l with
    | nil => exact ⟨[], trimLeft_cons_of_not_blank h⟩
    | cons d l ih =>
      cases hd : isBlank d with
      | true => rw [List.cons_append, trimLeft_cons_of_blank hd]; exact ih
      | false => exact ⟨d :: l, trimLeft_cons_of_not_blank hd⟩
  obtain ⟨r, hr⟩ := key cs.reverse
  exact ⟨r.reverse, by simp [trimRight_eq_reverse, hr]⟩

/-- What is left after `trimLeft` starts with a written character. -/
theorem not_blank_of_trimLeft_eq_cons {cs ds : List Char} {c : Char}
    (h : trimLeft cs = c :: ds) : isBlank c = false := by
  induction cs with
  | nil => simp [trimLeft] at h
  | cons d cs ih =>
    cases hd : isBlank d with
    | true => rw [trimLeft_cons_of_blank hd] at h; exact ih h
    | false =>
      rw [trimLeft_cons_of_not_blank hd] at h
      injection h with hcd _
      exact hcd ▸ hd

theorem trim_trim (cs : List Char) : trim (trim cs) = trim cs := by
  unfold trim
  cases h : trimLeft cs with
  | nil => rfl
  | cons c ds =>
    have hc := not_blank_of_trimLeft_eq_cons h
    obtain ⟨es, hes⟩ := @trimRight_cons_of_not_blank c ds hc
    rw [hes, trimLeft_cons_of_not_blank hc, ← hes, trimRight_trimRight]

theorem trimLeft_eq_nil_iff (cs : List Char) : trimLeft cs = [] ↔ ∀ c ∈ cs, isBlank c = true := by
  induction cs with
  | nil => simp [trimLeft]
  | cons c cs ih =>
    cases h : isBlank c with
    | true => rw [trimLeft_cons_of_blank h, ih]; simp [h]
    | false => rw [trimLeft_cons_of_not_blank h]; simp [h]

theorem trim_eq_nil_iff (cs : List Char) : trim cs = [] ↔ ∀ c ∈ cs, isBlank c = true := by
  rw [← trimLeft_eq_nil_iff]
  constructor
  · intro h
    cases hl : trimLeft cs with
    | nil => rfl
    | cons c ds =>
      have hc := not_blank_of_trimLeft_eq_cons hl
      obtain ⟨es, hes⟩ := @trimRight_cons_of_not_blank c ds hc
      rw [trim, hl, hes] at h
      cases h
  · intro h
    simp [trim, h, trimRight]

end Roster.Text
