import Roster.UserId

/-!
# Ids as they are written

An id is read back from its text, so no two ids have the same text.

* `UserId.hexNumber?_hexDigits` is about the digits, `UserId.ofGroups?_grouped` about the groups.
* `UserId.ofText_text` puts them together.
-/

namespace Roster.UserId

open Roster.Text

/-! ### Digits -/

theorem hexValue?_hexDigit {n : Nat} (h : n < 16) : hexValue? (hexDigit n) = some n := by
  have hall : ∀ n < 16, hexValue? (hexDigit n) = some n := by decide
  exact hall n h

theorem utf8Size_hexDigit {n : Nat} (h : n < 16) : (hexDigit n).utf8Size = 1 := by
  have hall : ∀ n < 16, (hexDigit n).utf8Size = 1 := by decide
  exact hall n h

theorem length_hexDigits (width n : Nat) : (hexDigits width n).length = width := by
  induction width generalizing n with
  | zero => rfl
  | succ width ih =>
    show (hexDigits width (n / 16) ++ [_]).length = _
    rw [List.length_append, ih]
    rfl

theorem byteLength_hexDigits (width n : Nat) : byteLength (hexDigits width n) = width := by
  induction width generalizing n with
  | zero => rfl
  | succ width ih =>
    show byteLength (hexDigits width (n / 16) ++ [_]) = _
    rw [byteLength_append, ih]
    simp [byteLength, utf8Size_hexDigit (Nat.mod_lt n (by decide))]

/-- Digits denote the number that they were taken from, as far as they go. -/
theorem hexNumber?_hexDigits (width n : Nat) :
    hexNumber? (hexDigits width n) = some (n % Nat.pow 16 width) := by
  induction width generalizing n with
  | zero =>
    show some 0 = _
    rw [Nat.pow_eq, Nat.pow_zero, Nat.mod_one]
  | succ width ih =>
    have hprefix := ih (n / 16)
    simp only [hexNumber?] at hprefix ⊢
    show List.foldlM _ 0 (hexDigits width (n / 16) ++ [hexDigit (n % 16)]) = _
    rw [List.foldlM_append, hprefix]
    show Option.bind (Option.map _ (hexValue? (hexDigit (n % 16)))) _ = _
    rw [hexValue?_hexDigit (Nat.mod_lt n (by decide))]
    show some (n / 16 % 16 ^ width * 16 + n % 16) = some (n % 16 ^ (width + 1))
    rw [Nat.pow_succ, Nat.mul_comm (16 ^ width) 16, Nat.mod_mul]
    congr 1
    omega

theorem ofDigits?_digits (id : UserId) : ofDigits? id.digits = some id := by
  have hvalue : id.value % Nat.pow 16 32 = id.value := Nat.mod_eq_of_lt id.value_lt
  simp only [ofDigits?, digits]
  rw [hexNumber?_hexDigits, hvalue]
  exact dif_pos id.value_lt

/-! ### Groups -/

/-- Five groups are found where they stand. -/
theorem groups_eq {a b c d : List Char} (ha : a.length = 8) (hb : b.length = 4) (hc : c.length = 4)
    (hd : d.length = 4) (e : List Char) :
    let g := a ++ '-' :: b ++ '-' :: c ++ '-' :: d ++ '-' :: e
    g.take 8 ++ (g.drop 9).take 4 ++ (g.drop 14).take 4 ++ (g.drop 19).take 4 ++ g.drop 24 =
      a ++ b ++ c ++ d ++ e := by
  have hda : ∀ n, 8 ≤ n → a.drop n = [] := fun n hn => List.drop_eq_nil_of_le (by omega)
  have hdb : ∀ n, 4 ≤ n → b.drop n = [] := fun n hn => List.drop_eq_nil_of_le (by omega)
  have hdc : ∀ n, 4 ≤ n → c.drop n = [] := fun n hn => List.drop_eq_nil_of_le (by omega)
  have hdd : ∀ n, 4 ≤ n → d.drop n = [] := fun n hn => List.drop_eq_nil_of_le (by omega)
  simp [List.drop_append, ha, hb, hc, hd, hda, hdb, hdc, hdd]

/-- Groups and digits hold the same, and the groups have four hyphens besides. -/
theorem digits_eq_groups (ds : List Char) :
    ds.take 8 ++ (ds.drop 8).take 4 ++ (ds.drop 12).take 4 ++ (ds.drop 16).take 4 ++ ds.drop 20 =
      ds := by
  have h1 := List.take_append_drop 8 ds
  have h2 := List.take_append_drop 4 (ds.drop 8)
  have h3 := List.take_append_drop 4 (ds.drop 12)
  have h4 := List.take_append_drop 4 (ds.drop 16)
  rw [List.drop_drop] at h2 h3 h4
  rw [List.append_assoc, h4, List.append_assoc, h3, List.append_assoc, h2, h1]

theorem byteLength_grouped (ds : List Char) : byteLength (grouped ds) = byteLength ds + 4 := by
  have h := congrArg byteLength (digits_eq_groups ds)
  simp only [byteLength_append] at h
  have hcons : ∀ cs, byteLength ('-' :: cs) = byteLength cs + 1 := by
    intro cs
    show byteLength (['-'] ++ cs) = _
    rw [byteLength_append, Nat.add_comm]
    rfl
  simp only [grouped]
  simp only [byteLength_append, hcons]
  omega

theorem byteLength_text (id : UserId) : byteLength id.text = 36 := by
  simp only [text, digits]
  rw [byteLength_grouped, byteLength_hexDigits]

theorem ofGroups?_text (id : UserId) : ofGroups? id.text = some id := by
  have hlength : id.digits.length = 32 := length_hexDigits 32 id.value
  have hgroups : id.text.take 8 ++ (id.text.drop 9).take 4 ++ (id.text.drop 14).take 4 ++
      (id.text.drop 19).take 4 ++ id.text.drop 24 = id.digits := by
    have h := groups_eq (a := id.digits.take 8) (b := (id.digits.drop 8).take 4)
      (c := (id.digits.drop 12).take 4) (d := (id.digits.drop 16).take 4) (by simp [hlength])
      (by simp [hlength]) (by simp [hlength]) (by simp [hlength]) (id.digits.drop 20)
    exact h.trans (digits_eq_groups id.digits)
  have htext : id.text.length = 36 := by
    simp only [text, grouped]
    simp [hlength]
  simp only [ofGroups?]
  simp only [hgroups, htext]
  rw [if_pos (by simp [text]), ofDigits?_digits]

/-- **Ids survive writing.**  The text of an id denotes the id. -/
theorem ofText_text (id : UserId) : ofText id.text = .ok id := by
  have hgroups : groupsOf? id.text = some id.text := by
    simp only [groupsOf?]
    rw [byteLength_text]
    rfl
  simp only [ofText]
  rw [if_neg (by rw [byteLength_text]; decide), hgroups]
  simp only [ofGroups?_text]

theorem text_inj {i j : UserId} : i.text = j.text ↔ i = j := by
  refine ⟨fun h => ?_, fun h => by rw [h]⟩
  have hi := ofText_text i
  rw [h, ofText_text] at hi
  exact (Except.ok.inj hi).symm

end Roster.UserId
