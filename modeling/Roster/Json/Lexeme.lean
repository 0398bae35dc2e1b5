import Roster.Json.Error
import Roster.Number.Word
import Roster.Text.Bytes

/-!
# Words, texts and numbers of JSON

The parts of a JSON text that hold no other values, each read from the start of what is left of the
text. A function here gives what it read together with the rest; as a `Scan` it can be followed by
others.

* `skipBlanks` passes over white space and `word` over the letters of a literal.
* `textBody` reads a text after its opening quote and resolves its escapes.
* `number` reads a number; whole numbers below `2 ^ 64` stay exact.
-/

namespace Roster.Json

open Roster.Number Roster.Text

/-- What reading from the start of a text gives: a result and the rest, or the cause of failure. -/
abbrev Outcome (α : Type) := Except Error (α × List Char)

/-- Reads from the text that is left and leaves the rest. -/
abbrev Scan := StateT (List Char) (Except Error)

/-- White space between the parts of a JSON text. -/
def isSpace (c : Char) : Bool := c == ' ' || c == '\n' || c == '\t' || c == '\r'

/-- The text from its first character that is no white space. -/
def skipBlanks (cs : List Char) : List Char := cs.dropWhile isSpace

/-- Reads the given letters. -/
def word : List Char → List Char → Outcome Unit
  | [], cs => .ok ((), cs)
  | _ :: _, [] => .error .eofInValue
  | c :: more, d :: cs => if c = d then word more cs else .error .expectedWord

/-! ### Texts -/

/-- The number that four hexadecimal digits denote. -/
def hexUnit? (a b c d : Char) : Option Nat := do
  let a ← hexValue? a
  let b ← hexValue? b
  let c ← hexValue? c
  let d ← hexValue? d
  return ((a * 16 + b) * 16 + c) * 16 + d

/-- Whether a UTF-16 unit is the first of a pair. -/
def isLeading (n : Nat) : Bool := 0xD800 ≤ n && n ≤ 0xDBFF

/-- Whether a UTF-16 unit is the second of a pair. -/
def isTrailing (n : Nat) : Bool := 0xDC00 ≤ n && n ≤ 0xDFFF

/-- The character that a pair of UTF-16 units stands for. -/
def pairChar (first second : Nat) : Char :=
  Char.ofNat ((first - 0xD800) * 0x400 + (second - 0xDC00) + 0x10000)

/-- The character of a one-letter escape. -/
def shortEscape? : Char → Option Char
  | '"' => some '"'
  | '\\' => some '\\'
  | '/' => some '/'
  | 'b' => some '\x08'
  | 'f' => some '\x0C'
  | 'n' => some '\n'
  | 'r' => some '\r'
  | 't' => some '\t'
  | _ => none

/-- What is wrong with an escape that lacks four hexadecimal digits: the text ends if fewer than four
bytes are left. -/
def badHexEscape (rest : List Char) : Error :=
  if 4 ≤ byteLength rest then .invalidEscape else .eofInString

/-- Puts a character in front of what was read. -/
def consRead (c : Char) : Outcome (List Char) → Outcome (List Char)
  | .ok (cs, rest) => .ok (c :: cs, rest)
  | .error e => .error e

/-- Reads a text after its opening quote. With `paired`, escapes of surrogates have to come in pairs;
without, each escape is taken alone, as when the text is passed over. -/
def textBody (paired : Bool) : List Char → Outcome (List Char)
  | [] => .error .eofInString
  | '"' :: rest => .ok ([], rest)
  | '\\' :: [] => .error .eofInString
  | '\\' :: 'u' :: a :: b :: c :: d :: rest =>
    match hexUnit? a b c d with
    | none => .error .invalidEscape
    | some n =>
      if !paired then consRead (Char.ofNat n) (textBody paired rest)
      else if isTrailing n then .error .loneSurrogate
      else if isLeading n then
        match rest with
        | [] => .error .eofInString
        | '\\' :: [] => .error .eofInString
        | '\\' :: 'u' :: e :: f :: g :: h :: rest =>
          match hexUnit? e f g h with
          | none => .error .invalidEscape
          | some m =>
            if isTrailing m then consRead (pairChar n m) (textBody paired rest)
            else .error .loneSurrogate
        | '\\' :: 'u' :: rest => .error (badHexEscape rest)
        | _ => .error .unfinishedSurrogatePair
      else consRead (Char.ofNat n) (textBody paired rest)
  | '\\' :: 'u' :: rest => .error (badHexEscape rest)
  | '\\' :: e :: rest =>
    match shortEscape? e with
    | some c => consRead c (textBody paired rest)
    | none => .error .invalidEscape
  | c :: rest =>
    if c.toNat < 0x20 then .error .controlCharacter else consRead c (textBody paired rest)

/-! ### Numbers -/

/-- A number as JSON readers see it: whole numbers of 64 bits apart from all others. -/
inductive Numeral where
  | natural (n : Nat)
  | negative (i : Int)
  | float (x : Binary64)
  deriving DecidableEq, Repr

/-- The number as something found. -/
def Numeral.found : Numeral → Found
  | .natural n => .natural n
  | .negative i => .negative i
  | .float x => .float x

/-- Adds digits to a significand as long as it stays within 64 bits: the significand, how many digits
were taken and the rest. -/
def takeDigits (significand count : Nat) : List Char → Nat × Nat × List Char
  | [] => (significand, count, [])
  | c :: rest =>
    if isDigit c && significand * 10 + digitValue c ≤ wordMax then
      takeDigits (significand * 10 + digitValue c) (count + 1) rest
    else (significand, count, c :: rest)

/-- The float `significand * 10 ^ power`, by one multiplication or division with a power of ten. -/
def scaled (negative : Bool) (significand : Nat) (power : Int) : Except Error Binary64 :=
  let rec shrink : Nat → Binary64 → Nat → Binary64
    | 0, x, _ => x
    | fuel + 1, x, p =>
      if p ≤ 308 then x.quotient (.ofDecimal false 1 p)
      else if x.isNonzero then shrink fuel (x.quotient (.ofDecimal false 1 308)) (p - 308)
      else x
  let x := Binary64.ofNat significand
  if 0 ≤ power then
    if 308 < power then
      if significand = 0 then .ok (x.withSign negative) else .error .numberOutOfRange
    else match x.times (.ofDecimal false 1 power) with
      | .infinity _ => .error .numberOutOfRange
      | y => .ok (y.withSign negative)
  else .ok ((shrink power.natAbs x power.natAbs).withSign negative)

/-- The greatest exponent that is taken at its value. -/
def exponentMax : Nat := 0x7fffffff

/-- Reads an exponent after its letter and gives the float. -/
def exponentPart (negative : Bool) (significand : Nat) (power : Int) (cs : List Char) :
    Outcome Numeral :=
  let (down, cs) := match cs with
    | '+' :: rest => (false, rest)
    | '-' :: rest => (true, rest)
    | rest => (false, rest)
  let digits := cs.takeWhile isDigit
  let rest := cs.dropWhile isDigit
  if digits.isEmpty then .error (if rest.isEmpty then .eofInValue else .invalidNumber)
  else
    let e := ofDecimal digits
    if exponentMax < e then
      if significand != 0 && !down then .error .numberOutOfRange
      else .ok (.float (.zero negative), rest)
    else
      (scaled negative significand (if down then power - e else power + e)).map
        fun x => (.float x, rest)

/-- What follows the digits of a number: an exponent or nothing. -/
def exponentOrEnd (negative : Bool) (significand : Nat) (power : Int) (cs : List Char) :
    Outcome Numeral :=
  match cs with
  | 'e' :: rest => exponentPart negative significand power rest
  | 'E' :: rest => exponentPart negative significand power rest
  | rest => (scaled negative significand power).map fun x => (.float x, rest)

/-- Reads the places after the point. Places beyond 64 bits are passed over. -/
def placesPart (negative : Bool) (significand : Nat) (power : Int) (cs : List Char) :
    Outcome Numeral :=
  let (s, count, rest) := takeDigits significand 0 cs
  if count = 0 && !(rest.head?.any isDigit) then
    .error (if rest.isEmpty then .eofInValue else .invalidNumber)
  else exponentOrEnd negative s (power - count) (rest.dropWhile isDigit)

/-- A whole number: exact within 64 bits, otherwise a float. -/
def wholeNumber (negative : Bool) (significand : Nat) : Numeral :=
  if !negative then .natural significand
  else if significand = 0 || 0x8000000000000000 < significand then
    .float ((Binary64.ofNat significand).withSign true)
  else .negative (-significand)

/-- Reads a number after its sign. -/
def unsignedNumber (negative : Bool) (cs : List Char) : Outcome Numeral :=
  match cs with
  | [] => .error .eofInValue
  | c :: rest =>
    if !isDigit c then .error .invalidNumber
    else if c == '0' && rest.head?.any isDigit then .error .invalidNumber
    else
      let (s, _, more) := takeDigits 0 0 cs
      let extra := more.takeWhile isDigit
      match more.dropWhile isDigit with
      | '.' :: rest => placesPart negative s extra.length rest
      | 'e' :: rest => exponentPart negative s extra.length rest
      | 'E' :: rest => exponentPart negative s extra.length rest
      | rest =>
        if extra.isEmpty then .ok (wholeNumber negative s, rest)
        else (scaled negative s extra.length).map fun x => (.float x, rest)

/-- Whether a number starts with this character. -/
def startsNumber (c : Char) : Bool := c == '-' || isDigit c

/-- Reads a number. -/
def number : List Char → Outcome Numeral
  | '-' :: rest => unsignedNumber true rest
  | cs => unsignedNumber false cs

end Roster.Json
