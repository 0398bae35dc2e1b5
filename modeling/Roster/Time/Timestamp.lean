import Roster.Text.Blank
import Roster.Text.Digits
import Roster.Time.Date

/-!
# Moments

A moment is counted in seconds from 1970-01-01 and in nanoseconds within the second. A leap second is
the last second of its minute with nanoseconds from a thousand million on.

* `Timestamp.text` writes a moment in universal time, with as many places of the second as it needs
  in groups of three.
* `Timestamp.ofText` reads date, time and offset; blanks may stand between the parts.
* `Timestamp.plusNanos` is the moment that comes later by so many nanoseconds.
-/

namespace Roster.Time

open Roster.Text

/-- Seconds of a day. -/
def secondsPerDay : Int := 86400

/-- Nanoseconds of a second. -/
def nanosPerSecond : Nat := 1000000000

/-- The first second that a moment can have. -/
def firstSecond : Int := Date.toDays ⟨firstYear, 1, 1⟩ * secondsPerDay

/-- The last second that a moment can have. -/
def lastSecond : Int := Date.toDays ⟨lastYear, 12, 31⟩ * secondsPerDay + secondsPerDay - 1

/-- A moment in universal time. -/
structure Timestamp where
  seconds : Int
  nanos : Nat
  first_le : firstSecond ≤ seconds
  le_last : seconds ≤ lastSecond
  nanos_lt : nanos < 2 * nanosPerSecond
  leap_last : nanosPerSecond ≤ nanos → seconds % 60 = 59
  deriving DecidableEq, Repr

namespace Timestamp

/-- Whether a moment comes before another. -/
def before (a b : Timestamp) : Bool :=
  a.seconds < b.seconds || (a.seconds == b.seconds && a.nanos < b.nanos)

/-- The moment with these seconds and nanoseconds, if there is one. -/
def of? (seconds : Int) (nanos : Nat) : Option Timestamp :=
  if h : firstSecond ≤ seconds ∧ seconds ≤ lastSecond ∧ nanos < 2 * nanosPerSecond ∧
      (nanosPerSecond ≤ nanos → seconds % 60 = 59) then
    some ⟨seconds, nanos, h.1, h.2.1, h.2.2.1, h.2.2.2⟩
  else none

/-- The moment that comes later by so many nanoseconds, if there is one. A leap second counts as the
second that it extends. -/
def plusNanos? (t : Timestamp) (n : Nat) : Option Timestamp :=
  if nanosPerSecond ≤ t.nanos && t.nanos + n < 2 * nanosPerSecond then
    of? t.seconds (t.nanos + n)
  else
    let sum := (if nanosPerSecond ≤ t.nanos then t.nanos - nanosPerSecond else t.nanos) + n
    of? (t.seconds + (sum / nanosPerSecond : Nat)) (sum % nanosPerSecond)

/-! ### Writing -/

/-- A year: four digits, or a sign and at least four. -/
def yearText (year : Int) : List Char :=
  if 0 ≤ year && year ≤ 9999 then decimalPadded 4 year.natAbs
  else (if year < 0 then '-' else '+') :: decimalPadded 4 year.natAbs

/-- The places of a second: none, three, six or nine, as few as are exact. -/
def fractionText (nanos : Nat) : List Char :=
  if nanos = 0 then []
  else if nanos % 1000000 = 0 then '.' :: decimalPadded 3 (nanos / 1000000)
  else if nanos % 1000 = 0 then '.' :: decimalPadded 6 (nanos / 1000)
  else '.' :: decimalPadded 9 nanos

/-- A date as year, month and day. -/
def dateText (d : Date) : List Char :=
  yearText d.year ++ '-' :: decimalPadded 2 d.month ++ '-' :: decimalPadded 2 d.day

/-- The moment in universal time. -/
def text (t : Timestamp) : List Char :=
  let date := Date.ofDays (t.seconds / secondsPerDay)
  let inDay := (t.seconds % secondsPerDay).toNat
  let leap := nanosPerSecond ≤ t.nanos
  dateText date ++ 'T' :: decimalPadded 2 (inDay / 3600) ++
    ':' :: decimalPadded 2 (inDay / 60 % 60) ++
    ':' :: decimalPadded 2 (if leap then 60 else inDay % 60) ++
    fractionText (if leap then t.nanos - nanosPerSecond else t.nanos) ++ ['Z']

end Timestamp

/-! ### Reading -/

/-- Why a text is no moment. -/
inductive TimeError where
  | invalid
  | outOfRange
  | tooShort
  | tooLong
  | impossible
  deriving DecidableEq, Repr

/-- The words for an error. -/
def TimeError.message : TimeError → String
  | .invalid => "input contains invalid characters"
  | .outOfRange => "input is out of range"
  | .tooShort => "premature end of input"
  | .tooLong => "trailing input"
  | .impossible => "no possible date and time matching input"

namespace Timestamp

/-- Reads from the text that is left and leaves the rest. -/
abbrev Step := StateT (List Char) (Except TimeError)

/-- The greatest number that is read at all. -/
def numberMax : Nat := 0x7fffffffffffffff

/-- Passes over blanks. -/
def blanks : Step Unit := fun cs => .ok ((), trimLeft cs)

/-- Reads up to `width` digits, at least one. -/
def digits (width : Nat) : Step Nat := fun cs =>
  let ds := (cs.take width).takeWhile isDigit
  if cs.isEmpty then .error .tooShort
  else if ds.isEmpty then .error .invalid
  else if numberMax < ofDecimal ds then .error .outOfRange
  else .ok (ofDecimal ds, cs.drop ds.length)

/-- Reads a number of up to two digits, after blanks, that lies between two bounds. -/
def field (low high : Nat) : Step Nat := do
  blanks
  let n ← digits 2
  if low ≤ n && n ≤ high then return n else throw .outOfRange

/-- Passes the given character. -/
def mark (c : Char) : Step Unit := fun cs =>
  match cs with
  | [] => .error .tooShort
  | d :: rest => if c = d then .ok ((), rest) else .error .invalid

/-- Reads a year: four digits at most, or any number of them after a sign. -/
def year : Step Int := do
  blanks
  let cs ← get
  let n : Int ← match cs with
    | '-' :: rest => do set rest; let n ← digits rest.length; pure (-(n : Int))
    | '+' :: rest => do set rest; let n ← digits rest.length; pure (n : Int)
    | _ => do let n ← digits 4; pure (n : Int)
  if -0x80000000 ≤ n && n < 0x80000000 then return n else throw .outOfRange

/-- Reads year, month and day. -/
def date : Step Date := do
  let y ← year
  blanks
  mark '-'
  let m ← field 1 12
  blanks
  mark '-'
  let d ← field 1 31
  return ⟨y, m, d⟩

/-- Reads the places of a second, if there are any, as nanoseconds. Places after the ninth are passed
over. -/
def fraction : Step Nat := do
  match ← get with
  | '.' :: rest =>
    set rest
    let before := rest.length
    let n ← digits 9
    let cs ← get
    set (cs.dropWhile isDigit)
    return n * Nat.pow 10 (9 - (before - cs.length))
  | _ => return 0

/-- Whether a text starts with the name of universal time, in any case. -/
def startsUniversal : List Char → Bool
  | a :: b :: c :: _ => a.toLower == 'u' && b.toLower == 't' && c.toLower == 'c'
  | _ => false

/-- Reads two digits that have to follow at once. -/
def twoDigits : Step (Nat × Nat) := fun cs =>
  match cs with
  | a :: b :: rest =>
    if isDigit a && isDigit b then .ok ((digitValue a, digitValue b), rest) else .error .invalid
  | [a] => .error (if a.utf8Size = 1 then .tooShort else .invalid)
  | [] => .error .tooShort

/-- Whether a character may stand between the hours and the minutes of an offset. -/
def isOffsetGap (c : Char) : Bool := c == ':' || isBlank c

/-- Reads hours and minutes of an offset after its sign, in seconds. -/
def offsetRest : Step Int := do
  let (h1, h2) ← twoDigits
  modify (·.dropWhile isOffsetGap)
  let (m1, m2) ← twoDigits
  if 6 ≤ m1 then throw .outOfRange
  return (((h1 * 10 + h2) * 60 + m1 * 10 + m2) * 60 : Nat)

/-- Reads the offset from universal time, in seconds. -/
def offset : Step Int := do
  let cs ← get
  if startsUniversal cs then
    set (cs.drop 3)
    return 0
  else match cs with
    | [] => throw .tooShort
    | c :: rest =>
      set rest
      if c == 'Z' || c == 'z' then return 0
      else if c == '+' then offsetRest
      else if c == '-' || c == '\u2212' then
        let o ← offsetRest
        return -o
      else throw .invalid

/-- Passes what stands between date and time. -/
def dateEnd : Step Unit := fun cs =>
  match cs with
  | [] => .error .tooShort
  | c :: rest => if c == 't' || c == 'T' || c == ' ' then .ok ((), rest) else .error .invalid

/-- Hour, minute, second and nanoseconds. -/
structure Clock where
  hour : Nat
  minute : Nat
  second : Nat
  nanos : Nat

/-- Reads hour, minute and second. -/
def clock : Step Clock := do
  let h ← field 0 23
  blanks
  mark ':'
  let m ← field 0 59
  blanks
  mark ':'
  let s ← field 0 60
  let n ← fraction
  return ⟨h, m, s, n⟩

/-- The moment of a date, a time of the day and an offset from universal time. -/
def ofParts (d : Date) (c : Clock) (offset : Int) : Except TimeError Timestamp :=
  if !d.isValid || secondsPerDay ≤ offset.natAbs then .error .outOfRange
  else
    let second := if c.second = 60 then 59 else c.second
    let nanos := if c.second = 60 then c.nanos + nanosPerSecond else c.nanos
    let inDay : Nat := (c.hour * 60 + c.minute) * 60 + second
    match of? (d.toDays * secondsPerDay + inDay - offset) nanos with
    | some t => .ok t
    | none => .error .impossible

/-- Reads all parts of a moment. -/
def parts : Step (Date × Clock × Int) := do
  let d ← date
  dateEnd
  let c ← clock
  blanks
  let o ← offset
  return (d, c, o)

/-- The moment that a text denotes. -/
def ofText (cs : List Char) : Except TimeError Timestamp := do
  let ((d, c, o), rest) ← parts cs
  if !(trimLeft rest).isEmpty then throw .tooLong
  ofParts d c o

end Timestamp

end Roster.Time
