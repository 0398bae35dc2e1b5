import Roster.Text.CaseTable

/-!
# Lower case

The full lower-case mapping of Unicode, without the rules of any one language. Every capital maps to
one letter, with two exceptions: a dotted capital I becomes an `i` and a combining dot, and a capital
sigma at the end of a word becomes the final sigma.

* `lowerChar` is the mapping of a single character outside context.
* `endsWord` is the condition for a final sigma.
* `lower` maps a text; `length_lower` says how much longer a text becomes.
-/

namespace Roster.Text

/-- The capital sigma, whose lower-case form depends on its place in the word. -/
def capitalSigma : Char := '\u03A3'

/-- The capital I with a dot, the one character with a lower-case form of two characters. -/
def dottedCapitalI : Char := '\u0130'

/-- The lower-case form of a character taken by itself. -/
def lowerChar (c : Char) : List Char :=
  if c == dottedCapitalI then ['i', '\u0307']
  else match lowerRuns.find? (·.holds c.toNat) with
    | some run => [Char.ofNat (c.toNat + run.shift).toNat]
    | none => [c]

/-- Whether the first character that is not case-ignorable is a cased letter. -/
def meetsCased (cs : List Char) : Bool :=
  match cs.dropWhile (fun c => caseIgnorableSpans.holds c.toNat) with
  | c :: _ => casedSpans.holds c.toNat
  | [] => false

/-- Whether a sigma between `before` (nearest character first) and `after` ends its word: a letter
comes before it and none after it, case-ignorable characters aside. -/
def endsWord (before after : List Char) : Bool := meetsCased before && !meetsCased after

/-- The lower-case form of a text whose preceding characters are `before`, nearest first. -/
def lowerAfter (before : List Char) : List Char → List Char
  | [] => []
  | c :: rest =>
    (if c == capitalSigma then
      [if endsWord before rest then '\u03C2' else '\u03C3']
    else lowerChar c) ++ lowerAfter (c :: before) rest

/-- The lower-case form of a text. -/
def lower (cs : List Char) : List Char := lowerAfter [] cs

/-- `lower` on strings. -/
def lowered (s : String) : String := String.ofList (lower s.toList)

/-! ### Length -/

theorem length_lowerChar (c : Char) :
    (lowerChar c).length = 1 + if c == dottedCapitalI then 1 else 0 := by
  unfold lowerChar
  split
  · rfl
  · split <;> rfl

theorem length_lowerAfter (before cs : List Char) :
    (lowerAfter before cs).length = cs.length + cs.count dottedCapitalI := by
  induction cs generalizing before with
  | nil => rfl
  | cons c cs ih =>
    have hc : (if c == capitalSigma then
        [if endsWord before cs then '\u03C2' else '\u03C3'] else lowerChar c).length =
        1 + if c == dottedCapitalI then 1 else 0 := by
      split
      · rename_i hsigma
        rw [eq_of_beq hsigma]
        rfl
      · exact length_lowerChar c
    simp only [lowerAfter, List.length_append, List.length_cons, List.count_cons, hc, ih]
    omega

/-- A text becomes longer by one character for every dotted capital I. -/
theorem length_lower (cs : List Char) : (lower cs).length = cs.length + cs.count dottedCapitalI :=
  length_lowerAfter [] cs

end Roster.Text
