import Roster.Json.Printer
import Roster.Json.Reader

/-!
# Texts as they are written

A text between quotes is read back whatever characters it holds: escaping takes nothing away, and
what is written ends at the closing quote and nowhere before.

* `textBody_escapedChar` is the step for one character, `textBody_escaped` the induction.
-/

namespace Roster.Json

open Roster.Text

theorem hexEscape_control {n : Nat} (h : n < 0x20) :
    ∃ a b c d, zeroPadded 4 (hexadecimal n) = [a, b, c, d] ∧ hexUnit? a b c d = some n := by
  have hall : ∀ n < 0x20, (zeroPadded 4 (hexadecimal n)).length = 4 ∧
      hexUnit? ((zeroPadded 4 (hexadecimal n)).getD 0 ' ') ((zeroPadded 4 (hexadecimal n)).getD 1 ' ')
        ((zeroPadded 4 (hexadecimal n)).getD 2 ' ') ((zeroPadded 4 (hexadecimal n)).getD 3 ' ') =
        some n := by decide +kernel
  obtain ⟨hlength, hunit⟩ := hall n h
  match hds : zeroPadded 4 (hexadecimal n), hlength with
  | [a, b, c, d], _ => exact ⟨a, b, c, d, rfl, by simpa [hds] using hunit⟩

/-- A character is read back from the form in which it stands in a text. -/
theorem textBody_escapedChar (c : Char) (rest : List Char) :
    textBody true (Print.escapedChar c ++ rest) = consRead c (textBody true rest) := by
  unfold Print.escapedChar
  split
  · rfl
  · rfl
  · rfl
  · rfl
  · rfl
  · rfl
  · rfl
  · split
    · rename_i hcontrol
      obtain ⟨h3, h2, h1, h0, hds, hunit⟩ := hexEscape_control hcontrol
      rw [hds]
      show textBody true ('\\' :: 'u' :: h3 :: h2 :: h1 :: h0 :: rest) = _
      have hchar : Char.ofNat c.toNat = c := Char.ofNat_toNat c
      have htrailing : isTrailing c.toNat = false := by
        simp only [isTrailing, Bool.and_eq_false_iff, decide_eq_false_iff_not]
        omega
      have hleading : isLeading c.toNat = false := by
        simp only [isLeading, Bool.and_eq_false_iff, decide_eq_false_iff_not]
        omega
      rw [textBody]
      simp only [hunit, htrailing, hleading, hchar, Bool.not_true, Bool.false_eq_true, ↓reduceIte]
    · rename_i hquote hbackslash _ _ _ _ _ hcontrol
      show textBody true (c :: rest) = _
      rw [textBody]
      · rw [if_neg hcontrol]
      · exact hquote
      all_goals
        intros
        exact hbackslash (by assumption)

/-- A text is read back up to its closing quote. -/
theorem textBody_escaped (cs rest : List Char) :
    textBody true (cs.flatMap Print.escapedChar ++ '"' :: rest) = .ok (cs, rest) := by
  induction cs with
  | nil => rfl
  | cons c cs ih =>
    rw [List.flatMap_cons, List.append_assoc, textBody_escapedChar, ih]
    rfl

end Roster.Json
