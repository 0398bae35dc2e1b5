import Roster.Text.Pieces
import Roster.Text.Digits

/-!
# Punycode

Labels of host names in which not all characters are ASCII, written in ASCII: first the ASCII
characters, then for each of the others, in increasing order, how far on it is to be inserted.

* `Punycode.encode` writes and `Punycode.decode?` reads a label; numbers beyond 32 bits are refused.
-/

namespace Roster.Net.Punycode

open Roster.Text

/-! ### The shape of numbers -/

/-- Halves the scale of a distance until it is small; each step adds a base to the bias. -/
def scaleDown (d k : Nat) : Nat × Nat :=
  if 455 < d then scaleDown (d / 35) (k + 36) else (d, k)
termination_by d
decreasing_by omega

/-- The bias after a distance, when `count` characters are there. -/
def adapted (distance count : Nat) (first : Bool) : Nat :=
  let d := if first then distance / 700 else distance / 2
  let (d, k) := scaleDown (d + d / count) 0
  k + 36 * d / (d + 38)

/-- From which digit value on a number goes on at place `k`. -/
def threshold (bias k : Nat) : Nat :=
  if k ≤ bias then 1 else if bias + 26 ≤ k then 26 else k - bias

/-- The digit of a value below 36. -/
def digit (n : Nat) : Char := if n < 26 then Char.ofNat (97 + n) else Char.ofNat (22 + n)

/-- The value of a digit. -/
def digitOf? (c : Char) : Option Nat :=
  if 'a' ≤ c && c ≤ 'z' then some (c.toNat - 97)
  else if 'A' ≤ c && c ≤ 'Z' then some (c.toNat - 65)
  else if isDigit c then some (c.toNat - 22)
  else none

/-! ### Writing -/

/-- A number as digits of mixed base, with at most `fuel` of them. -/
def number (bias : Nat) : Nat → Nat → Nat → List Char
  | 0, _, n => [digit n]
  | fuel + 1, k, n =>
    let t := threshold bias k
    if n < t then [digit n]
    else digit (t + (n - t) % (36 - t)) :: number bias fuel (k + 36) ((n - t) / (36 - t))

/-- What an encoder knows: the distance so far, the bias and how many characters are written. -/
structure Progress where
  distance : Nat
  bias : Nat
  written : Nat
  /-- Whether no character but ASCII has been written yet. -/
  first : Bool
  out : List Char

/-- Takes account of one character of the label while the code point `n` is written. -/
def Progress.step (n : Nat) (p : Progress) (c : Char) : Progress :=
  if c.toNat < n then { p with distance := p.distance + 1 }
  else if c.toNat = n then
    { distance := 0
      bias := adapted p.distance (p.written + 1) p.first
      written := p.written + 1
      first := false
      out := p.out ++ number p.bias 40 36 p.distance }
  else p

/-- Writes the code points of a label, given in increasing order; `last` is the one before. -/
def encodeFrom (label : List Char) : List Nat → Nat → Progress → List Char
  | [], _, p => p.out
  | n :: more, last, p =>
    let p := { p with distance := p.distance + (n - last) * (p.written + 1) }
    let p := label.foldl (Progress.step n) p
    encodeFrom label more (n + 1) { p with distance := p.distance + 1 }

/-- Puts a number into an increasing list, unless it is there. -/
def insertSorted (n : Nat) : List Nat → List Nat
  | [] => [n]
  | m :: rest => if n < m then n :: m :: rest else if n = m then m :: rest else m :: insertSorted n rest

/-- The label in ASCII. -/
def encode (label : List Char) : List Char :=
  let basic := label.filter (·.toNat < 0x80)
  let others := (label.filter fun c => 0x80 ≤ c.toNat).foldl (fun l c => insertSorted c.toNat l) []
  let start := if basic.isEmpty then [] else basic ++ ['-']
  start ++ encodeFrom label others 0x80 ⟨0, 72, basic.length, true, []⟩

/-! ### Reading -/

/-- Reads a number: the rest of the text and the number added to `sum`. -/
def readNumber? (bias : Nat) : Nat → Nat → Nat → List Char → Option (Nat × List Char)
  | _, _, _, [] => none
  | k, weight, sum, c :: rest => do
    let d ← digitOf? c
    let sum := sum + d * weight
    if 0x100000000 ≤ sum then none
    else
      let t := threshold bias k
      if d < t then some (sum, rest) else readNumber? bias (k + 36) (weight * (36 - t)) sum rest

/-- Inserts the characters that the numbers of a text say. Every number takes up text, so the length
of the text is fuel enough. -/
def decodeFrom? : Nat → Nat → Nat → Nat → Bool → List Char → List Char → Option (List Char)
  | _, _, _, _, _, out, [] => some out
  | 0, _, _, _, _, _, _ => none
  | fuel + 1, n, index, bias, first, out, cs => do
    let (sum, rest) ← readNumber? bias 36 1 index cs
    let count := out.length + 1
    let n := n + sum / count
    let place := sum % count
    if h : n.isValidChar then
      let c : Char := Char.ofNatAux n h
      let bias := adapted (sum - index) count first
      decodeFrom? fuel n (place + 1) bias false (out.take place ++ c :: out.drop place) rest
    else none

/-- The label that a text in ASCII denotes. -/
def decode? (cs : List Char) : Option (List Char) :=
  match splitLast? '-' cs with
  | some ([], _) => none
  | some (basic, rest) => decodeFrom? cs.length 0x80 0 72 true basic rest
  | none => decodeFrom? cs.length 0x80 0 72 true [] cs

end Roster.Net.Punycode
