/-!
# Numbers of 64 bits

Counters, sizes and page numbers are natural numbers below `2 ^ 64`. Where one would grow beyond, it
stays at the greatest (`saturated`) or starts again at zero (`wrapped`).
-/

namespace Roster.Number

/-- The greatest number of 64 bits. -/
def wordMax : Nat := 0xffffffffffffffff

/-- The number, or the greatest of 64 bits if that is less. -/
def saturated (n : Nat) : Nat := min n wordMax

/-- The number up to multiples of `2 ^ 64`. -/
def wrapped (n : Nat) : Nat := n % 0x10000000000000000

/-- Whether an integer is one of 64 bits with a sign. -/
def isSigned (i : Int) : Bool := -0x8000000000000000 ≤ i && i < 0x8000000000000000

theorem saturated_le (n : Nat) : saturated n ≤ wordMax := Nat.min_le_right _ _

theorem saturated_of_le {n : Nat} (h : n ≤ wordMax) : saturated n = n := Nat.min_eq_left h

theorem wrapped_le (n : Nat) : wrapped n ≤ wordMax := by
  have : n % 0x10000000000000000 < 0x10000000000000000 := Nat.mod_lt _ (by decide)
  simp only [wrapped, wordMax]
  omega

theorem wrapped_of_le {n : Nat} (h : n ≤ wordMax) : wrapped n = n := by
  apply Nat.mod_eq_of_lt
  simp only [wordMax] at h
  omega

end Roster.Number
