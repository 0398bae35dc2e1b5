/-!
# Text as bytes

How long a text is as UTF-8, and the bytes of a text.
-/

namespace Roster.Text

/-- The number of bytes of a text. -/
def byteLength (cs : List Char) : Nat := cs.foldr (fun c n => c.utf8Size + n) 0

/-- The bytes of a text. -/
def bytesOf (cs : List Char) : ByteArray := (String.ofList cs).toUTF8

theorem byteLength_append (cs ds : List Char) :
    byteLength (cs ++ ds) = byteLength cs + byteLength ds := by
  induction cs with
  | nil => simp [byteLength]
  | cons c cs ih =>
    simp only [byteLength, List.cons_append, List.foldr_cons] at *
    omega

theorem length_le_byteLength (cs : List Char) : cs.length ≤ byteLength cs := by
  induction cs with
  | nil => simp [byteLength]
  | cons c cs ih =>
    have := Char.utf8Size_pos c
    simp only [byteLength, List.foldr_cons, List.length_cons] at *
    omega

end Roster.Text
