import Roster.Text.Digits

/-!
# Floating point numbers

Numbers of the binary64 format as exact values `mantissa * 2 ^ exponent`, so that rounding and
printing are integer arithmetic.

* `roundQuotient` rounds a quotient of naturals to the nearest number, a tie to the even mantissa.
* `ofDecimal` and `ofText?` read decimal notation with a single rounding.
* `shortest` finds the fewest decimal digits that round to the number.
* `plain`, `pointed` and `scientific` write a number in the three notations that messages use.
-/

namespace Roster.Number

open Roster.Text

/-- A binary64 number. A finite one has the value `mantissa * 2 ^ exponent`, where the mantissa is
below `2 ^ 53` and at least `2 ^ 52` unless the exponent is the least one, -1074. -/
inductive Binary64 where
  | nan
  | infinity (negative : Bool)
  | finite (negative : Bool) (mantissa : Nat) (exponent : Int)
  deriving DecidableEq, Repr

namespace Binary64

/-- The least exponent. -/
def leastExponent : Int := -1074

/-- The greatest exponent. -/
def greatestExponent : Int := 971

/-- Zero with a sign. -/
def zero (negative : Bool) : Binary64 := .finite negative 0 leastExponent

/-! ### Rounding -/

/-- The quotient rounded to the nearest integer, a tie to the even one. -/
def divRound (n d : Nat) : Nat :=
  let q := n / d
  let twice := 2 * (n % d)
  if twice < d then q else if d < twice then q + 1 else q + q % 2

/-- The number nearest to `n / d`. -/
def roundQuotient (negative : Bool) (n d : Nat) : Binary64 :=
  if n = 0 then zero negative
  else
    let gap : Int := (n.log2 : Int) - d.log2
    let reaches := if gap < 0 then d ≤ n <<< gap.natAbs else d <<< gap.natAbs ≤ n
    let e := max (if reaches then gap - 52 else gap - 53) leastExponent
    let m := if e < 0 then divRound (n <<< e.natAbs) d else divRound n (d <<< e.natAbs)
    let (m, e) := if m = 0x20000000000000 then (0x10000000000000, e + 1) else (m, e)
    if greatestExponent < e then .infinity negative else .finite negative m e

/-- The number nearest to a natural number. -/
def ofNat (n : Nat) : Binary64 := roundQuotient false n 1

/-- The number nearest to `digits * 10 ^ power`. -/
def ofDecimal (negative : Bool) (digits : Nat) (power : Int) : Binary64 :=
  let magnitude := ((decimal digits).length : Int) + power
  if digits = 0 || magnitude < -330 then zero negative
  else if 310 < magnitude then .infinity negative
  else if power < 0 then roundQuotient negative digits (Nat.pow 10 power.natAbs)
  else roundQuotient negative (digits * Nat.pow 10 power.natAbs) 1

/-- The number with its sign set. -/
def withSign (negative : Bool) : Binary64 → Binary64
  | .nan => .nan
  | .infinity _ => .infinity negative
  | .finite _ m e => .finite negative m e

/-- The rounded product of two numbers of which neither is negative and the second is finite. -/
def times : Binary64 → Binary64 → Binary64
  | .finite s m e, .finite _ m' e' =>
    let p := e + e'
    if p < 0 then roundQuotient s (m * m') (1 <<< p.natAbs)
    else roundQuotient s ((m * m') <<< p.natAbs) 1
  | .finite .., x => x
  | x, _ => x

/-- The rounded quotient of two numbers of which neither is negative and the second is finite and
not zero. -/
def quotient : Binary64 → Binary64 → Binary64
  | .finite s m e, .finite _ m' e' =>
    let p := e - e'
    if p < 0 then roundQuotient s m (m' <<< p.natAbs)
    else roundQuotient s (m <<< p.natAbs) m'
  | x, _ => x

/-! ### Reading decimal notation -/

/-- Digits, then an optional point and more digits: the digits together, the number of places after
the point and the rest. -/
def splitNumber (cs : List Char) : List Char × Nat × List Char :=
  let whole := cs.takeWhile isDigit
  match cs.dropWhile isDigit with
  | '.' :: rest =>
    let places := rest.takeWhile isDigit
    (whole ++ places, places.length, rest.dropWhile isDigit)
  | rest => (whole, 0, rest)

/-- An optional exponent that ends the text. -/
def exponentOf? : List Char → Option Int
  | [] => some 0
  | c :: rest => if c == 'e' || c == 'E' then intOfText? rest else none

/-- A number without its sign. -/
def unsigned? (negative : Bool) (cs : List Char) : Option Binary64 :=
  let word := (String.ofList cs).toLower
  if word == "inf" || word == "infinity" then some (.infinity negative)
  else if word == "nan" then some .nan
  else
    let (digits, places, rest) := splitNumber cs
    if digits.isEmpty then none
    else (exponentOf? rest).map fun e => ofDecimal negative (Text.ofDecimal digits) (e - places)

/-- The number a text consists of: a sign, digits with or without a point, an exponent; or the words
for infinity and for no number, in any case. -/
def ofText? (cs : List Char) : Option Binary64 :=
  match cs with
  | '-' :: rest => unsigned? true rest
  | '+' :: rest => unsigned? false rest
  | rest => unsigned? false rest

/-! ### The fewest digits -/

/-- The power of ten of the leading digit of `n / d`, searched downwards from below the point. -/
def leadingBelow (n d : Nat) : Nat → Int → Int
  | 0, p => p
  | fuel + 1, p => if d ≤ n * 10 then p else leadingBelow (n * 10) d fuel (p - 1)

/-- The power of ten of the leading digit of `n / d`, where neither is zero. -/
def leadingPower (n d : Nat) : Int :=
  if d ≤ n then ((decimal (n / d)).length : Int) - 1 else leadingBelow n d 400 (-1)

/-- The decimal numbers with `count` digits next to `m * 2 ^ e` that round to it, the nearer one if
both do: its digits and power of ten. -/
def withDigits? (m : Nat) (e leading : Int) (count : Nat) : Option (Nat × Int) :=
  let k := leading - count + 1
  let grid (d : Nat) := (d * Nat.pow 10 k.toNat) <<< (2 - e).toNat
  let point (x : Nat) := x <<< (e - 2).toNat * Nat.pow 10 (-k).toNat
  let low := if m = 0x10000000000000 && e ≠ leastExponent then 4 * m - 1 else 4 * m - 2
  let high := 4 * m + 2
  let fits (d : Nat) :=
    if m % 2 = 0 then point low ≤ grid d && grid d ≤ point high
    else point low < grid d && grid d < point high
  let d := point (4 * m) / grid 1
  let nearer := point (4 * m) - grid d ≤ grid (d + 1) - point (4 * m)
  if fits d && (nearer || !fits (d + 1)) then some (d, k)
  else if fits (d + 1) then some (d + 1, k)
  else none

/-- The fewest decimal digits, with their power of ten, that round to `m * 2 ^ e`, where `m` is not
zero. -/
def shortest (m : Nat) (e : Int) : Nat × Int :=
  let n := m <<< e.toNat
  let d := 1 <<< (-e).toNat
  let leading := leadingPower n d
  ((List.range 17).findSome? fun i => withDigits? m e leading (i + 1)).getD (n / d, 0)

/-- Digits without the zeros they end with, and the power of ten that makes up for them. -/
def dropZeros (digits : List Char) (power : Int) : List Char × Int :=
  let zeros := (digits.reverse.takeWhile (· == '0')).length
  (digits.take (digits.length - zeros), power + zeros)

/-- The shortest digits of a number that is not zero, and the power of ten of the last one. -/
def shortestDigits (m : Nat) (e : Int) : List Char × Int :=
  let (d, k) := shortest m e
  dropZeros (decimal d) k

/-! ### Writing -/

/-- Digits in positional notation; `power` is the power of ten of the last digit. -/
def positional (digits : List Char) (power : Int) : List Char :=
  if 0 ≤ power then digits ++ List.replicate power.toNat '0'
  else
    let places := (-power).toNat
    let padded := zeroPadded (places + 1) digits
    padded.take (padded.length - places) ++ '.' :: padded.drop (padded.length - places)

/-- A minus sign for negative numbers. -/
def signText (negative : Bool) : List Char := if negative then ['-'] else []

/-- The number in positional notation, a whole number without a point. -/
def plain : Binary64 → List Char
  | .nan => "NaN".toList
  | .infinity s => signText s ++ "inf".toList
  | .finite s m e =>
    signText s ++
      if m = 0 then ['0'] else
        let (digits, power) := shortestDigits m e
        positional digits power

/-- The number in positional notation, always with a point. -/
def pointed (x : Binary64) : List Char :=
  let text := plain x
  if text.contains '.' then text else text ++ ['.', '0']

/-- The number as data formats write it: positional from a hundred-thousandth up to sixteen digits
before the point, otherwise with an exponent of a sign and at least two digits. -/
def scientific : Binary64 → List Char
  | .nan => "NaN".toList
  | .infinity s => signText s ++ "inf".toList
  | .finite s m e =>
    signText s ++
      if m = 0 then "0.0".toList else
        let (digits, power) := shortestDigits m e
        let leading := power + digits.length - 1
        if -5 ≤ leading && leading ≤ 15 then
          let text := positional digits power
          if text.contains '.' then text else text ++ ['.', '0']
        else
          let mantissa := match digits with
            | first :: second :: more => first :: '.' :: second :: more
            | other => other
          mantissa ++ ['e', if leading < 0 then '-' else '+'] ++ decimalPadded 2 leading.natAbs

/-! ### Comparing and rounding -/

/-- Whether the number differs from zero; what is no number does. -/
def isNonzero : Binary64 → Bool
  | .finite _ m _ => m != 0
  | _ => true

/-- The nearest natural number up to `limit`, a half going up; negative numbers and what is no number
become zero. -/
def toNatUpTo (limit : Nat) : Binary64 → Nat
  | .nan => 0
  | .infinity s => if s then 0 else limit
  | .finite true _ _ => 0
  | .finite false m e =>
    if e < 0 then min limit ((2 * m + 1 <<< e.natAbs) / 2 <<< e.natAbs)
    else min limit (m <<< e.natAbs)

end Binary64

end Roster.Number
