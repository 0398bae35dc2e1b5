import Roster.Text.NormalTable
import Roster.Text.Rows

/-!
# Canonical composition

A text in which no character can be written by a shorter canonical one: every character is
decomposed, marks on the same base are ordered by their combining class, and pairs are composed
again. Syllables of Hangul are decomposed and composed by arithmetic.

* `decomposed` and `ordered` are the first two steps, `composed` the last.
* `normal` takes all three.
-/

namespace Roster.Text

/-! ### Tables -/

/-- A run of code points with one combining class. -/
structure ClassRun where
  first : Nat
  last : Nat
  combining : Nat

/-- Runs from records; `last` is the code point before. -/
def classRunsFrom : Nat → List (List Int) → List ClassRun
  | _, [] => []
  | last, r :: rest =>
    let first := last + (r.headD 0).toNat
    let final := first + (r.getD 2 0).toNat
    ⟨first, final, (r.getD 1 0).toNat⟩ :: classRunsFrom final rest

/-- The code points whose combining class is not zero. -/
def classRuns : List ClassRun := classRunsFrom 0 (records classRows)

/-- The code points with a canonical decomposition. -/
def decompositions : List (Nat × List Int) := placedRecords decomposedRows

/-- The code points that are composed of a pair. -/
def compositions : List (Nat × List Int) := placedRecords composedRows

/-- The combining class of a character; the first of all code points that has one is U+0300. -/
def combiningClass (c : Char) : Nat :=
  if c.toNat < 0x300 then 0
  else match classRuns.find? fun r => r.first ≤ c.toNat && c.toNat ≤ r.last with
    | some r => r.combining
    | none => 0

/-! ### Hangul -/

/-- The first of the composed syllables. -/
def firstSyllable : Nat := 0xAC00

/-- The number of composed syllables. -/
def syllableCount : Nat := 11172

/-- The decomposition of a composed syllable. -/
def syllableParts (n : Nat) : List Char :=
  let index := n - firstSyllable
  let lead := Char.ofNat (0x1100 + index / 588)
  let vowel := Char.ofNat (0x1161 + index % 588 / 28)
  if index % 28 = 0 then [lead, vowel] else [lead, vowel, Char.ofNat (0x11A7 + index % 28)]

/-- The syllable that a pair of parts makes. -/
def syllableOf? (a b : Nat) : Option Char :=
  if 0x1100 ≤ a && a < 0x1113 && 0x1161 ≤ b && b < 0x1176 then
    some (Char.ofNat (firstSyllable + ((a - 0x1100) * 21 + (b - 0x1161)) * 28))
  else if firstSyllable ≤ a && a < firstSyllable + syllableCount
      && (a - firstSyllable) % 28 = 0 && 0x11A8 ≤ b && b < 0x11C3 then
    some (Char.ofNat (a + (b - 0x11A7)))
  else none

/-! ### The steps -/

/-- The decomposition of a character. -/
def decomposedChar (c : Char) : List Char :=
  if c.toNat < 0xC0 then [c]
  else if firstSyllable ≤ c.toNat && c.toNat < firstSyllable + syllableCount then
    syllableParts c.toNat
  else match decompositions.find? (·.1 == c.toNat) with
    | some (_, parts) => parts.map fun n => Char.ofNat n.toNat
    | none => [c]

/-- The text with every character decomposed. -/
def decomposed (cs : List Char) : List Char := cs.flatMap decomposedChar

/-- Puts a mark before the marks of higher classes that a text starts with. -/
def insertMark (c : Char) (k : Nat) : List (Char × Nat) → List (Char × Nat)
  | [] => [(c, k)]
  | (d, l) :: rest =>
    if l ≠ 0 && l < k then (d, l) :: insertMark c k rest else (c, k) :: (d, l) :: rest

/-- The text with its combining classes, marks between two bases in the order of their classes. -/
def ordered : List Char → List (Char × Nat)
  | [] => []
  | c :: rest =>
    let k := combiningClass c
    if k = 0 then (c, 0) :: ordered rest else insertMark c k (ordered rest)

/-- The character that a pair is composed to. -/
def composedPair? (a b : Char) : Option Char :=
  match syllableOf? a.toNat b.toNat with
  | some c => some c
  | none =>
    if b.toNat < 0x300 then none
    else
      (compositions.find? fun e => e.2 == [(a.toNat : Int), (b.toNat : Int)]).map
        fun e => Char.ofNat e.1

/-- Composes what follows a base: `kept` are the marks, latest first, that stayed behind the base,
and `last` the class of the latest. -/
def composeAfter (base : Char) (kept : List Char) (last : Nat) : List (Char × Nat) → List Char
  | [] => base :: kept.reverse
  | (c, k) :: rest =>
    let blocked := !kept.isEmpty && (last = 0 || k ≤ last)
    match if blocked then none else composedPair? base c with
    | some d => composeAfter d kept last rest
    | none =>
      if k = 0 then base :: kept.reverse ++ composeAfter c [] 0 rest
      else composeAfter base (c :: kept) k rest

/-- The text with its pairs composed. Marks before the first base stay as they are. -/
def composed : List (Char × Nat) → List Char
  | [] => []
  | (c, k) :: rest => if k = 0 then composeAfter c [] 0 rest else c :: composed rest

/-- The text in canonical composition. -/
def normal (cs : List Char) : List Char := composed (ordered (decomposed cs))

end Roster.Text
