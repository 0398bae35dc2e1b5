import Roster.Net.HostTable
import Roster.Net.Punycode
import Roster.Text.Normal

/-!
# Host names in ASCII

A host name may be written with letters of all scripts; in ASCII it has labels in Punycode. Before
that each character is replaced by what it stands for in host names, and the result is composed.

* `mapped?` replaces the characters and refuses those that do not occur in host names.
* `isLabel` holds the rules for a single label, `runsWell` the one for its direction.
* `toAscii?` is the whole conversion.
-/

namespace Roster.Net

open Roster.Text

/-! ### Tables -/

/-- Code points that stand for others `shift` further on. -/
structure ShiftRun where
  first : Nat
  last : Nat
  stride : Nat
  shift : Int

/-- Whether a run has a code point. -/
def ShiftRun.holds (r : ShiftRun) (n : Nat) : Bool :=
  r.first ≤ n && n ≤ r.last && (n - r.first) % r.stride == 0

/-- Runs from records; `last` is the code point before. -/
def shiftRunsFrom : Nat → List (List Int) → List ShiftRun
  | _, [] => []
  | last, r :: rest =>
    let first := last + (r.headD 0).toNat
    let final := first + (r.getD 2 0).toNat
    ⟨first, final, (r.getD 3 1).toNat, r.getD 1 0⟩ :: shiftRunsFrom final rest

/-- The code points that stand for one other. -/
def shiftRuns : List ShiftRun := shiftRunsFrom 0 (records shiftRows)

/-- The code points that stand for several others. -/
def expansions : List (Nat × List Int) := placedRecords expandedRows

/-- The code points that are left out. -/
def ignoredSpans : Spans := recordSpans ignoredRows

/-- The code points that do not occur in host names. -/
def refusedSpans : Spans := recordSpans refusedRows

/-- Combining marks. -/
def markSpans : Spans := recordSpans markRows

/-- Letters that run from right to left. -/
def rightToLeftSpans : Spans := recordSpans rightToLeftRows

/-- Digits that are ordered with letters that run from right to left. -/
def arabicNumberSpans : Spans := recordSpans arabicNumberRows

/-- Digits that are ordered by themselves. -/
def europeanNumberSpans : Spans := recordSpans europeanNumberRows

/-- Marks that take the direction of what they stand on. -/
def nonspacingSpans : Spans := recordSpans nonspacingRows

/-- Signs without a direction. -/
def neutralSpans : Spans := recordSpans neutralRows

/-- Letters that join to what comes after them only. -/
def leftJoiningSpans : Spans := recordSpans leftJoiningRows

/-- Letters that join to what comes before them only. -/
def rightJoiningSpans : Spans := recordSpans rightJoiningRows

/-- Letters that join on both sides. -/
def dualJoiningSpans : Spans := recordSpans dualJoiningRows

/-- Marks that do not take part in joining. -/
def transparentSpans : Spans := recordSpans transparentRows

/-! ### Characters -/

/-- What a character stands for in a host name, unless it does not occur there. -/
def mappedChar? (c : Char) : Option (List Char) :=
  if 'A' ≤ c && c ≤ 'Z' then some [c.toLower]
  else if c.toNat < 0x80 then some [c]
  else if refusedSpans.holds c.toNat then none
  else if ignoredSpans.holds c.toNat then some []
  else match shiftRuns.find? (·.holds c.toNat) with
    | some r => some [Char.ofNat ((c.toNat : Int) + r.shift).toNat]
    | none =>
      match expansions.find? (·.1 == c.toNat) with
      | some (_, parts) => some (parts.map fun n => Char.ofNat n.toNat)
      | none => some [c]

/-- A text with each character replaced by what it stands for. -/
def mapped? (cs : List Char) : Option (List Char) := (cs.mapM mappedChar?).map List.flatten

/-! ### Direction -/

/-- How a character is ordered beside others. -/
inductive Direction where
  | leftToRight
  | rightToLeft
  | arabicNumber
  | europeanNumber
  | nonspacing
  | neutral
  deriving DecidableEq, Repr

/-- The direction of a character. -/
def directionOf (c : Char) : Direction :=
  let n := c.toNat
  if rightToLeftSpans.holds n then .rightToLeft
  else if arabicNumberSpans.holds n then .arabicNumber
  else if europeanNumberSpans.holds n then .europeanNumber
  else if nonspacingSpans.holds n then .nonspacing
  else if neutralSpans.holds n then .neutral
  else .leftToRight

/-- The directions of a label without the marks it ends with. -/
def withoutMarks (ds : List Direction) : List Direction :=
  (ds.reverse.dropWhile (· == .nonspacing)).reverse

/-- Whether a label runs in one direction: it starts with a letter, everything in it can stand beside
that letter, and at its end is a letter of the same kind or a digit. -/
def runsWell (label : List Char) : Bool :=
  match label.map directionOf with
  | [] => true
  | .leftToRight :: rest =>
    rest.all (fun d => d != .rightToLeft && d != .arabicNumber)
      && ((withoutMarks rest).getLast?.all fun d => d == .leftToRight || d == .europeanNumber)
  | .rightToLeft :: rest =>
    rest.all (· != .leftToRight)
      && ((withoutMarks rest).getLast?.all fun d =>
        d == .rightToLeft || d == .europeanNumber || d == .arabicNumber)
      && !(rest.contains .europeanNumber && rest.contains .arabicNumber)
  | _ => false

/-- Whether the rule on directions applies to a host name with this label. -/
def needsDirection (label : List Char) : Bool :=
  label.any fun c => directionOf c == .rightToLeft || directionOf c == .arabicNumber

/-! ### Labels -/

/-- The sign that keeps letters from joining. -/
def nonJoiner : Char := '\u200C'

/-- The sign that makes letters join. -/
def joiner : Char := '\u200D'

/-- The combining class of the signs that take away a vowel. -/
def viramaClass : Nat := 9

/-- Whether letters on both sides would join. -/
def joins (before after : List Char) : Bool :=
  let skip (cs : List Char) := cs.dropWhile fun c => transparentSpans.holds c.toNat
  (skip before).head?.any (fun c => leftJoiningSpans.holds c.toNat || dualJoiningSpans.holds c.toNat)
    && (skip after).head?.any
      (fun c => rightJoiningSpans.holds c.toNat || dualJoiningSpans.holds c.toNat)

/-- Whether every sign of joining has an effect where it stands. `before` is the text before, nearest
character first. -/
def joinersFit (before : List Char) : List Char → Bool
  | [] => true
  | c :: rest =>
    let afterVirama := before.head?.any fun b => combiningClass b == viramaClass
    (if c == joiner then afterVirama
      else if c == nonJoiner then afterVirama || joins before rest
      else true) && joinersFit (c :: before) rest

/-- Whether a label keeps the rules: it does not start with a mark and its signs of joining fit. -/
def isLabel (label : List Char) : Bool :=
  !(label.head?.any fun c => markSpans.holds c.toNat) && joinersFit [] label

/-- Whether every character is ASCII. -/
def isAscii (cs : List Char) : Bool := cs.all (·.toNat < 0x80)

/-- What labels in Punycode start with. -/
def punycodeMark : List Char := "xn--".toList

/-- The label that a text stands for: itself, or what its Punycode denotes. -/
def labelOf? (cs : List Char) : Option (List Char) :=
  if punycodeMark.isPrefixOf cs then do
    if !isAscii cs then none
    let label ← Punycode.decode? (cs.drop 4)
    if isAscii label || normal label != label then none
    let same ← mapped? label
    if same == label then some label else none
  else some cs

/-- A label in ASCII. -/
def labelText (label : List Char) : List Char :=
  if isAscii label then label else punycodeMark ++ Punycode.encode label

/-- The host name in ASCII, unless a label breaks the rules. -/
def toAscii? (cs : List Char) : Option (List Char) := do
  let text ← mapped? cs
  let labels ← (pieces '.' (normal text)).mapM labelOf?
  if !(labels.all isLabel) then none
  if labels.any needsDirection && !(labels.all runsWell) then none
  some (join ['.'] (labels.map labelText))

end Roster.Net
