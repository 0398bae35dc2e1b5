import Roster.Number.Word

/-!
# Generations of the listing

A counter that is part of the key of every cached page. Each change of the directory begins a new
generation, so that pages of earlier ones are never looked up again.
-/

namespace Roster.Cache

open Roster.Number

/-- The number of the present generation. -/
structure Generation where
  current : Nat
  deriving DecidableEq, Repr

namespace Generation

/-- The first generation. -/
def first : Generation := ⟨0⟩

/-- The next generation. -/
def bump (g : Generation) : Generation := ⟨wrapped (g.current + 1)⟩

end Generation

end Roster.Cache
