import Roster.Text.LetterTable
import Roster.Text.Rows

/-!
# Letters and digits of all scripts

Which characters words are made of.
-/

namespace Roster.Text

/-- The letters and digits beyond ASCII. -/
def letterSpans : Spans := recordSpans letterRows

/-- Whether a character is a letter or a digit of any script. -/
def isLetterOrDigit (c : Char) : Bool :=
  if c.toNat < 0x80 then isLatin c || isDigit c else letterSpans.holds c.toNat

end Roster.Text
