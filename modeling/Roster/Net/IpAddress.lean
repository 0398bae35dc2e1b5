import Roster.Text.Digits
import Roster.Text.Pieces

/-!
# Addresses of hosts

Which texts are addresses: four decimal numbers below 256 with points between them, or up to eight
groups of hexadecimal digits with colons between them. Two colons in a row stand once for one or more
groups of zeros, and the last two groups may be written as four decimal numbers.
-/

namespace Roster.Net

open Roster.Text

/-- Whether a text is a decimal number below 256 without leading zeros. -/
def isOctet (cs : List Char) : Bool :=
  !cs.isEmpty && cs.length ≤ 3 && cs.all isDigit && ofDecimal cs < 256
    && (cs.length = 1 || cs.head? != some '0')

/-- Whether a text is four decimal numbers with points between them. -/
def isIpv4 (cs : List Char) : Bool :=
  let parts := pieces '.' cs
  parts.length = 4 && parts.all isOctet

/-- Whether a text is a group of one to four hexadecimal digits. -/
def isGroup (cs : List Char) : Bool :=
  !cs.isEmpty && cs.length ≤ 4 && cs.all fun c => (hexValue? c).isSome

/-- How many groups the parts between colons stand for, if they are groups. With `mayEndInIpv4` the
last part may be four decimal numbers, which stand for two groups. -/
def groupCount? (mayEndInIpv4 : Bool) : List (List Char) → Option Nat
  | [] => some 0
  | [part] =>
    if isGroup part then some 1 else if mayEndInIpv4 && isIpv4 part then some 2 else none
  | part :: more => if isGroup part then (groupCount? mayEndInIpv4 more).map (· + 1) else none

/-- The groups on one side of the two colons: none when the side is empty. -/
def sideCount? (mayEndInIpv4 : Bool) (cs : List Char) : Option Nat :=
  if cs.isEmpty then some 0 else groupCount? mayEndInIpv4 (pieces ':' cs)

/-- The texts before and after the first two colons in a row. -/
def splitGap? : List Char → Option (List Char × List Char)
  | ':' :: ':' :: rest => some ([], rest)
  | c :: rest => (splitGap? rest).map fun p => (c :: p.1, p.2)
  | [] => none

/-- Whether a text is an address of eight groups. -/
def isIpv6 (cs : List Char) : Bool :=
  match splitGap? cs with
  | none => groupCount? true (pieces ':' cs) == some 8
  | some (before, after) =>
    match sideCount? false before, sideCount? true after with
    | some m, some n => m + n ≤ 7
    | _, _ => false

/-- Whether a text is an address of a host. -/
def isIpAddress (cs : List Char) : Bool := isIpv4 cs || isIpv6 cs

end Roster.Net
