import Roster.Number.Binary64
import Roster.Number.Word
import Roster.Text.Pieces

/-!
# Single values in TOML

Numbers, truth values, dates and times: words without white space, but for a date and a time with a
blank between them.

* `integer?` and `float?` read numbers, in whose digits single underscores may stand.
* `momentText?` reads a date, a time or both, and gives its usual form.
-/

namespace Roster.Toml

open Roster.Number Roster.Text

/-! ### Numbers -/

/-- The digits of a number, in which single underscores may stand between digits. -/
def groupedDigits? (isDigit : Char → Bool) (cs : List Char) : Option (List Char) :=
  let groups := pieces '_' cs
  if groups.all fun g => !g.isEmpty && g.all isDigit then some groups.flatten else none

/-- A sign and what comes after it. -/
def splitSign : List Char → Bool × List Char
  | '-' :: rest => (true, rest)
  | '+' :: rest => (false, rest)
  | cs => (false, cs)

/-- The digits of a whole number: a zero alone, or digits that do not start with one. -/
def wholeDigits? (cs : List Char) : Option (List Char) :=
  match cs with
  | ['0'] => some cs
  | '0' :: _ => none
  | _ => groupedDigits? isDigit cs

/-- An integer, if it has 64 bits. -/
def inRange? (i : Int) : Option Int := if isSigned i then some i else none

/-- The number that digits of a base denote. -/
def inBase? (base : Nat) (cs : List Char) : Option Int := do
  let digits ← groupedDigits? (fun c => (hexValue? c).any (· < base)) cs
  inRange? (digits.foldl (fun n c => n * base + (hexValue? c).getD 0) 0 : Nat)

/-- An integer: decimal, or hexadecimal, octal or binary after `0x`, `0o` and `0b`. -/
def integer? (cs : List Char) : Option Int :=
  match cs with
  | '0' :: 'x' :: ds => inBase? 16 ds
  | '0' :: 'o' :: ds => inBase? 8 ds
  | '0' :: 'b' :: ds => inBase? 2 ds
  | _ => do
    let (negative, ds) := splitSign cs
    let n := ofDecimal (← wholeDigits? ds)
    inRange? (if negative then -(n : Int) else n)

/-- Whether a text is an exponent. -/
def isExponent : List Char → Bool
  | e :: cs => (e = 'e' || e = 'E') && (groupedDigits? isDigit (splitSign cs).2).isSome
  | [] => false

/-- Whether a text without its sign is digits with places or an exponent. -/
def isFloat (cs : List Char) : Bool :=
  let beforePlaces (c : Char) : Bool := c != '.' && c != 'e' && c != 'E'
  (wholeDigits? (cs.takeWhile beforePlaces)).isSome &&
    match cs.dropWhile beforePlaces with
    | '.' :: rest =>
      let places := rest.takeWhile beforePlaces
      let after := rest.dropWhile beforePlaces
      (groupedDigits? isDigit places).isSome && (after.isEmpty || isExponent after)
    | rest => isExponent rest

/-- A float. Those beyond the greatest number are refused if they are positive. -/
def float? (cs : List Char) : Option Binary64 :=
  let (negative, ds) := splitSign cs
  if ds = "inf".toList then some (.infinity negative)
  else if ds = "nan".toList then some .nan
  else if isFloat ds then
    match Binary64.ofText? (cs.filter (· != '_')) with
    | some (.infinity false) => none
    | x => x
  else none

/-! ### Dates and times -/

/-- Two digits and the number they denote, up to a limit. -/
def pair? (least greatest : Nat) : List Char → Option (Nat × List Char)
  | a :: b :: rest =>
    let n := ofDecimal [a, b]
    if isDigit a && isDigit b && least ≤ n && n ≤ greatest then some (n, rest) else none
  | _ => none

/-- How many days a month has. -/
def monthDays (year month : Nat) : Nat :=
  if month = 2 then if year % 4 = 0 && (year % 100 != 0 || year % 400 = 0) then 29 else 28
  else if [4, 6, 9, 11].contains month then 30 else 31

/-- The text after a character. -/
def after? (c : Char) : List Char → Option (List Char)
  | d :: rest => if c = d then some rest else none
  | [] => none

/-- A date in its usual form. -/
def date? (cs : List Char) : Option (List Char × List Char) := do
  let year := cs.take 4
  if year.length < 4 || !year.all isDigit then none
  let rest ← after? '-' (cs.drop 4)
  let (month, rest) ← pair? 1 12 rest
  let rest ← after? '-' rest
  let (day, rest) ← pair? 1 (monthDays (ofDecimal year) month) rest
  return (year ++ '-' :: decimalPadded 2 month ++ '-' :: decimalPadded 2 day, rest)

/-- The places of seconds in their usual form: nine at most, without zeros at the end. -/
def placesText (digits : List Char) : List Char :=
  match ((digits.take 9).reverse.dropWhile (· = '0')).reverse with
  | [] => []
  | ds => '.' :: ds

/-- A time in its usual form. -/
def time? (cs : List Char) : Option (List Char × List Char) := do
  let (hour, rest) ← pair? 0 23 cs
  let rest ← after? ':' rest
  let (minute, rest) ← pair? 0 59 rest
  let rest ← after? ':' rest
  let (second, rest) ← pair? 0 60 rest
  let text := decimalPadded 2 hour ++ ':' :: decimalPadded 2 minute ++ ':' :: decimalPadded 2 second
  match rest with
  | '.' :: more =>
    let digits := more.takeWhile isDigit
    if digits.isEmpty then none else return (text ++ placesText digits, more.dropWhile isDigit)
  | _ => return (text, rest)

/-- The distance from universal time in its usual form, at the end of a text. -/
def offset? (cs : List Char) : Option (List Char) :=
  match cs with
  | [] => some []
  | ['Z'] => some ['Z']
  | ['z'] => some ['Z']
  | sign :: rest => do
    if sign != '+' && sign != '-' then none
    let (hour, rest) ← pair? 0 23 rest
    let rest ← after? ':' rest
    let (minute, rest) ← pair? 0 59 rest
    if !rest.isEmpty then none
    let sign := if hour = 0 && minute = 0 then '+' else sign
    return sign :: decimalPadded 2 hour ++ ':' :: decimalPadded 2 minute

/-- A date, a time, or both, perhaps with the distance from universal time. -/
def momentText? (cs : List Char) : Option (List Char) :=
  match date? cs with
  | some (date, []) => some date
  | some (date, c :: rest) => do
    if c != 'T' && c != 't' && c != ' ' then none
    let (time, rest) ← time? rest
    return date ++ 'T' :: time ++ (← offset? rest)
  | none =>
    match time? cs with
    | some (time, []) => some time
    | _ => none

end Roster.Toml
