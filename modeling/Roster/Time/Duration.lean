import Roster.Text.Digits

/-!
# Spans of time

A span of time is a number of nanoseconds. It is written in the largest unit that it reaches, with as
many places as are exact.
-/

namespace Roster.Time

open Roster.Text

/-- A span of time in nanoseconds. -/
structure Duration where
  nanos : Nat
  deriving DecidableEq, Repr

namespace Duration

/-- A span of whole seconds. -/
def ofSeconds (n : Nat) : Duration := ⟨n * 1000000000⟩

/-- A span of whole milliseconds. -/
def ofMillis (n : Nat) : Duration := ⟨n * 1000000⟩

/-- The whole seconds of a span. -/
def toSeconds (d : Duration) : Nat := d.nanos / 1000000000

/-- The whole milliseconds of a span. -/
def toMillis (d : Duration) : Nat := d.nanos / 1000000

/-- Digits without the zeros they end with. -/
def withoutEndZeros (cs : List Char) : List Char := (cs.reverse.dropWhile (· == '0')).reverse

/-- A number of units that have `10 ^ places` parts each. -/
def inUnits (places n : Nat) (unit : String) : List Char :=
  let parts := withoutEndZeros (decimalPadded places (n % Nat.pow 10 places))
  decimal (n / Nat.pow 10 places) ++ (if n % Nat.pow 10 places = 0 then [] else '.' :: parts) ++ unit.toList

/-- The span in the largest unit that it reaches. -/
def text (d : Duration) : List Char :=
  if 1000000000 ≤ d.nanos then inUnits 9 d.nanos "s"
  else if 1000000 ≤ d.nanos then inUnits 6 d.nanos "ms"
  else if 1000 ≤ d.nanos then inUnits 3 d.nanos "µs"
  else inUnits 0 d.nanos "ns"

end Duration

end Roster.Time
