/-!
# Digits

Numbers as text: decimal and hexadecimal digits, padding, and reading digits back. The decimal
digits determine the number (`ofDecimal_decimal`, `decimal_inj`).
-/

namespace Roster.Text

/-- The decimal digits of a number, without leading zeros. -/
def decimal (n : Nat) : List Char := Nat.toDigits 10 n

/-- The decimal digits of an integer, after a minus sign when it is negative. -/
def decimalInt (i : Int) : List Char :=
  if i < 0 then '-' :: decimal i.natAbs else decimal i.natAbs

/-- The number that decimal digits denote. -/
def ofDecimal (cs : List Char) : Nat := Nat.ofDigitChars 10 cs 0

/-- The lower-case hexadecimal digits of a number, without leading zeros. -/
def hexadecimal (n : Nat) : List Char := Nat.toDigits 16 n

/-- Digits filled up with zeros on the left to a width. -/
def zeroPadded (width : Nat) (cs : List Char) : List Char :=
  List.replicate (width - cs.length) '0' ++ cs

/-- Decimal digits filled up with zeros to a width. -/
def decimalPadded (width n : Nat) : List Char := zeroPadded width (decimal n)

/-- Whether a character is one of the ten ASCII digits. -/
def isDigit (c : Char) : Bool := '0' ≤ c && c ≤ '9'

/-- Whether a character is one of the ASCII letters. -/
def isLatin (c : Char) : Bool := ('a' ≤ c && c ≤ 'z') || ('A' ≤ c && c ≤ 'Z')

/-- The value of an ASCII digit. -/
def digitValue (c : Char) : Nat := c.toNat - '0'.toNat

/-- The value of a hexadecimal digit of either case. -/
def hexValue? (c : Char) : Option Nat :=
  if '0' ≤ c && c ≤ '9' then some (c.toNat - '0'.toNat)
  else if 'a' ≤ c && c ≤ 'f' then some (c.toNat - 'a'.toNat + 10)
  else if 'A' ≤ c && c ≤ 'F' then some (c.toNat - 'A'.toNat + 10)
  else none

/-- The decimal number a text consists of, an optional plus sign aside. -/
def natOfText? (cs : List Char) : Option Nat :=
  let ds := match cs with
    | '+' :: rest => rest
    | rest => rest
  if !ds.isEmpty && ds.all isDigit then some (ofDecimal ds) else none

/-- The decimal integer a text consists of, with an optional sign. -/
def intOfText? (cs : List Char) : Option Int :=
  match cs with
  | '-' :: rest => if !rest.isEmpty && rest.all isDigit then some (-(ofDecimal rest : Int)) else none
  | _ => (natOfText? cs).map Int.ofNat

/-! ### Decimal digits determine the number -/

theorem ofDecimal_decimal (n : Nat) : ofDecimal (decimal n) = n :=
  Nat.ofDigitChars_toDigits (by decide) (by decide)

theorem decimal_inj {m n : Nat} : decimal m = decimal n ↔ m = n :=
  ⟨fun h => by rw [← ofDecimal_decimal m, h, ofDecimal_decimal], fun h => h ▸ rfl⟩

theorem isDigit_of_mem_decimal {n : Nat} {c : Char} (h : c ∈ decimal n) : c.isDigit = true :=
  Nat.isDigit_of_mem_toDigits (by decide) (by decide) h

end Roster.Text
