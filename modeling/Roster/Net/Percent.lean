import Roster.Text.Digits

/-!
# Percent encoding

In addresses a percent sign and two hexadecimal digits stand for a byte, and all else for itself.
Queries are pairs of names and values written in this way.
-/

namespace Roster.Net

open Roster.Text

/-- The byte that a percent sign and two hexadecimal digits stand for. -/
def escapedByte? (c a b : Char) : Option UInt8 :=
  if c = '%' then do return UInt8.ofNat (16 * (← hexValue? a) + (← hexValue? b)) else none

/-- The bytes of a single character. -/
def charBytes (c : Char) : List UInt8 := c.toString.toUTF8.toList

/-- The bytes that a text stands for. -/
def percentDecoded : List Char → List UInt8
  | c :: a :: b :: more =>
    match escapedByte? c a b with
    | some byte => byte :: percentDecoded more
    | none => charBytes c ++ percentDecoded (a :: b :: more)
  | cs => cs.flatMap charBytes

/-- The text that a text stands for, unless its bytes are none. -/
def percentText? (cs : List Char) : Option (List Char) :=
  (String.fromUTF8? ⟨(percentDecoded cs).toArray⟩).map String.toList

end Roster.Net
