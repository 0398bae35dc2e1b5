/-!
# Bytes that may be no text

Any bytes read as UTF-8. What is no text is replaced: every longest start of a character that does not go
on as it should, and every byte that starts none, is read as one replacement character.

* `lenientText` reads bytes.
-/

namespace Roster.Text

/-- What stands in the place of bytes that are no text. -/
def replacement : Char := '\uFFFD'

/-- A character of which more bytes have to come. -/
structure Pending where
  /-- How many bytes have to come. -/
  missing : Nat
  /-- The least that the next byte may be. -/
  least : Nat
  /-- The greatest that the next byte may be. -/
  greatest : Nat
  /-- The number that the bytes so far make. -/
  value : Nat
  deriving DecidableEq, Repr

/-- What a byte is that starts a character. -/
inductive Lead where
  | whole (c : Char)
  | more (p : Pending)
  | bad
  deriving DecidableEq, Repr

/-- What a byte is as the first one of a character. -/
def leadOf (b : Nat) : Lead :=
  if b < 0x80 then .whole (Char.ofNat b)
  else if b < 0xC2 then .bad
  else if b < 0xE0 then .more ⟨1, 0x80, 0xBF, b - 0xC0⟩
  else if b < 0xF0 then
    .more ⟨2, if b = 0xE0 then 0xA0 else 0x80, if b = 0xED then 0x9F else 0xBF, b - 0xE0⟩
  else if b < 0xF5 then
    .more ⟨3, if b = 0xF0 then 0x90 else 0x80, if b = 0xF4 then 0x8F else 0xBF, b - 0xF0⟩
  else .bad

/-- Reads bytes after the start of a character, if there is one. -/
def lenientFrom : Option Pending → List UInt8 → List Char
  | none, [] => []
  | some _, [] => [replacement]
  | pending, b :: rest =>
    let n := b.toNat
    let fresh (_ : Unit) : List Char := match leadOf n with
      | .whole c => c :: lenientFrom none rest
      | .more p => lenientFrom (some p) rest
      | .bad => replacement :: lenientFrom none rest
    match pending with
    | none => fresh ()
    | some p =>
      if p.least ≤ n && n ≤ p.greatest then
        let value := p.value * 64 + (n - 0x80)
        if p.missing = 1 then Char.ofNat value :: lenientFrom none rest
        else lenientFrom (some ⟨p.missing - 1, 0x80, 0xBF, value⟩) rest
      else replacement :: fresh ()

/-- The text that bytes are read as. -/
def lenientText (bytes : List UInt8) : List Char := lenientFrom none bytes

end Roster.Text
