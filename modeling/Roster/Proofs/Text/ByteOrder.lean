/-!
# The order of texts and of their bytes

Texts are ordered by their characters. Their bytes in UTF-8 are ordered in the same way: the bytes of
a greater character are greater at the first place where they differ from those of a lesser one, and
no character's bytes begin those of another.

* `utf8EncodeChar_lt` is about two characters and `bytes_lt` about two texts.
* `bytes_le_iff` says that the two orders are the same.
-/

namespace Roster.Text

/-- The bytes of a text, from first to last. -/
def bytes (s : String) : List UInt8 := s.toUTF8.data.toList

theorem bytes_eq (s : String) : bytes s = s.toList.flatMap String.utf8EncodeChar := by
  have hencoded := @String.toByteArray_ofList s.toList
  rw [String.ofList_toList] at hencoded
  rw [bytes, String.toUTF8_eq_toByteArray, hencoded, List.utf8Encode]
  exact List.toList_data_toByteArray

theorem byte_lt_byte {a b : Nat} (ha : a < 256) (hb : b < 256) :
    UInt8.ofNat a < UInt8.ofNat b ↔ a < b := by
  rw [UInt8.lt_iff_toNat_lt, UInt8.toNat_ofNat', UInt8.toNat_ofNat', Nat.mod_eq_of_lt ha,
    Nat.mod_eq_of_lt hb]

theorem byte_eq_byte {a b : Nat} (ha : a < 256) (hb : b < 256) :
    UInt8.ofNat a = UInt8.ofNat b ↔ a = b := by
  rw [← UInt8.toNat_inj, UInt8.toNat_ofNat', UInt8.toNat_ofNat', Nat.mod_eq_of_lt ha,
    Nat.mod_eq_of_lt hb]

/-- Of two characters the lesser one has the lesser bytes, whatever follows them. -/
theorem utf8EncodeChar_lt {c d : Char} (h : c < d) (xs ys : List UInt8) :
    String.utf8EncodeChar c ++ xs < String.utf8EncodeChar d ++ ys := by
  have hlt : c.val.toNat < d.val.toNat := h
  have hd : d.val.toNat < 0x110000 := by
    rcases d.valid with hd | hd
    · exact Nat.lt_trans hd (by decide)
    · exact hd.2
  rw [String.utf8EncodeChar, String.utf8EncodeChar]
  generalize c.val.toNat = m at hlt
  generalize d.val.toNat = n at hlt hd
  -- The bytes after the first are digits in base 64, and the first one tells how many there are.
  have hdigits : ∀ k < 0x110000, k / 64 / 64 = k / 4096 ∧ k / 4096 / 64 = k / 262144 ∧
      k / 262144 % 8 = k / 262144 := by omega
  have hm := hdigits m (Nat.lt_trans hlt hd)
  have hn := hdigits n hd
  (repeat' split) <;>
    simp (disch := omega) only [List.cons_append, List.cons_lt_cons_iff, byte_lt_byte,
      byte_eq_byte] <;>
    omega

/-- Of two texts the lesser one has the lesser bytes. -/
theorem bytes_lt {s t : String} (h : s < t) : bytes s < bytes t := by
  rw [bytes_eq, bytes_eq]
  have hchars : List.Lex (· < ·) s.toList t.toList := h
  generalize s.toList = cs at hchars
  generalize t.toList = ds at hchars
  induction hchars with
  | @nil d ds =>
    obtain ⟨x, xs, hx⟩ := List.exists_cons_of_ne_nil (String.utf8EncodeChar_ne_nil (c := d))
    rw [List.flatMap_nil, List.flatMap_cons, hx]
    exact List.nil_lt_cons x _
  | rel hlt =>
    rw [List.flatMap_cons, List.flatMap_cons]
    exact utf8EncodeChar_lt hlt _ _
  | cons _ ih =>
    rw [List.flatMap_cons, List.flatMap_cons]
    exact List.append_left_lt ih

/-- Texts are in the order of their bytes. -/
theorem bytes_le_iff {s t : String} : bytes s ≤ bytes t ↔ s ≤ t := by
  refine ⟨fun h => ?_, fun h => ?_⟩
  · exact String.not_lt.1 fun hlt => h (bytes_lt hlt)
  · by_cases heq : s = t
    · rw [heq]
      exact List.le_refl _
    · have hlt : s < t := String.not_le.1 fun hle => heq (String.le_antisymm h hle)
      exact List.le_of_lt (bytes_lt hlt)

end Roster.Text
