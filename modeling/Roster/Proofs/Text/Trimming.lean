import Roster.Text.Blank
import Roster.Text.Lowercase

/-!
# What trimming leaves

Trimming takes blanks off the ends of a text and nothing else. So it makes no difference whether there
were any, no other character is lost, and the case of ASCII letters may be changed before or after.

* `of_run` is how a property of the capitals is checked one by one.
* `trim_between` says that blanks around a text make no difference, `trim_map_toLower` that trimming and
  the lower case of ASCII go together.
* `length_trim_le` and `count_trim` say what is left.
-/

namespace Roster.Text

/-! ### The case of ASCII letters -/

/-- What holds of all characters of a run holds of each. -/
@[elab_as_elim]
theorem of_run {motive : Char → Prop} (first count : Nat) (c : Char)
    (hc : first ≤ c.toNat ∧ c.toNat < first + count)
    (h : ∀ n < count, motive (Char.ofNat (n + first))) : motive c := by
  have hplace := h (c.toNat - first) (by omega)
  rwa [Nat.sub_add_cancel hc.1, Char.ofNat_toNat] at hplace

theorem toLower_eq_self {c : Char} (h : ¬ (65 ≤ c.toNat ∧ c.toNat ≤ 90)) : c.toLower = c :=
  dif_neg h

theorem isBlank_toLower (c : Char) : isBlank c.toLower = isBlank c := by
  by_cases hcapital : 65 ≤ c.toNat ∧ c.toNat ≤ 90
  · refine of_run 65 26 c (by omega) ?_
    decide
  · rw [toLower_eq_self hcapital]

theorem trimLeft_map_toLower (cs : List Char) :
    trimLeft (cs.map Char.toLower) = (trimLeft cs).map Char.toLower := by
  have hsame : isBlank ∘ Char.toLower = isBlank := funext isBlank_toLower
  simp only [trimLeft]
  rw [List.dropWhile_map, hsame]

theorem trim_map_toLower (cs : List Char) :
    trim (cs.map Char.toLower) = (trim cs).map Char.toLower := by
  simp only [trim, trimRight_eq_reverse]
  rw [trimLeft_map_toLower, ← List.map_reverse, trimLeft_map_toLower, ← List.map_reverse]

/-! ### Blanks around a text -/

theorem trimLeft_append_of_blank {before : List Char} (h : ∀ c ∈ before, isBlank c = true)
    (cs : List Char) : trimLeft (before ++ cs) = trimLeft cs :=
  List.dropWhile_append_of_pos h

theorem trimRight_append_of_blank {after : List Char} (h : ∀ c ∈ after, isBlank c = true)
    (cs : List Char) : trimRight (cs ++ after) = trimRight cs := by
  rw [trimRight_eq_reverse, trimRight_eq_reverse, List.reverse_append, trimLeft_append_of_blank]
  intro c hc
  exact h c (List.mem_reverse.1 hc)

/-- Blanks around a text make no difference once it is trimmed. -/
theorem trim_between {before after : List Char} (hbefore : ∀ c ∈ before, isBlank c = true)
    (hafter : ∀ c ∈ after, isBlank c = true) (cs : List Char) :
    trim (before ++ cs ++ after) = trim cs := by
  simp only [trim]
  rw [List.append_assoc, trimLeft_append_of_blank hbefore]
  by_cases hcs : trimLeft cs = []
  · -- a text of blanks only: nothing is left of either
    have hblank := (trimLeft_eq_nil_iff cs).1 hcs
    rw [hcs, trimLeft_append_of_blank hblank, (trimLeft_eq_nil_iff after).2 hafter]
  · have hkept : trimLeft (cs ++ after) = trimLeft cs ++ after := by
      simp only [trimLeft] at hcs ⊢
      rw [List.dropWhile_append, if_neg (by simpa using hcs)]
    rw [hkept, trimRight_append_of_blank hafter]

/-! ### What is left -/

theorem length_trim_le (cs : List Char) : (trim cs).length ≤ cs.length := by
  have hleft : ∀ cs : List Char, (trimLeft cs).length ≤ cs.length :=
    fun cs => (List.dropWhile_sublist _).length_le
  simp only [trim]
  rw [trimRight_eq_reverse, List.length_reverse]
  refine Nat.le_trans (hleft _) ?_
  rw [List.length_reverse]
  exact hleft cs

theorem trimmed_trimmed (s : String) : trimmed (trimmed s) = trimmed s := by
  simp only [trimmed]
  rw [String.toList_ofList, trim_trim]

theorem count_trimLeft {c : Char} (h : isBlank c = false) (cs : List Char) :
    (trimLeft cs).count c = cs.count c := by
  induction cs with
  | nil => rfl
  | cons d cs ih =>
    cases hd : isBlank d with
    | true =>
      have hne : ¬(d == c) = true := fun he => by rw [eq_of_beq he, h] at hd; cases hd
      rw [trimLeft_cons_of_blank hd, ih, List.count_cons, if_neg hne, Nat.add_zero]
    | false => rw [trimLeft_cons_of_not_blank hd]

/-- A character that is not blank stands in a trimmed text as often as before. -/
theorem count_trim {c : Char} (h : isBlank c = false) (cs : List Char) :
    (trim cs).count c = cs.count c := by
  simp only [trim]
  rw [trimRight_eq_reverse, List.count_reverse, count_trimLeft h, List.count_reverse,
    count_trimLeft h]

end Roster.Text
