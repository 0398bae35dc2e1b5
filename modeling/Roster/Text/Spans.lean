/-!
# Spans of code points

A set of characters given by the first and last code points of its runs, as the Unicode character
database lists them.
-/

namespace Roster.Text

/-- A set of code points as pairs of first and last members. -/
abbrev Spans := List (Nat × Nat)

/-- Whether one of the spans holds the code point. -/
def Spans.holds (spans : Spans) (n : Nat) : Bool :=
  spans.any fun s => s.1 ≤ n && n ≤ s.2

theorem Spans.holds_iff (spans : Spans) (n : Nat) :
    spans.holds n = true ↔ ∃ s ∈ spans, s.1 ≤ n ∧ n ≤ s.2 := by
  simp [Spans.holds, List.any_eq_true]

end Roster.Text
