/-!
# Reading step by step

Readers take what they read from the front of a text and leave the rest, or fail. A reader that is made
of others succeeds if they do, one after another.
-/

namespace Roster

variable {σ ε α β : Type}

/-- A step that succeeds hands its result and the rest on to what follows. -/
theorem bind_of_ok {x : StateT σ (Except ε) α} {s t : σ} {a : α} (h : x s = .ok (a, t))
    (f : α → StateT σ (Except ε) β) : (x >>= f) s = f a t := by
  show Except.bind (x s) _ = _
  rw [h]
  rfl

/-- A step that fails ends everything. -/
theorem bind_of_error {x : StateT σ (Except ε) α} {s : σ} {e : ε} (h : x s = .error e)
    (f : α → StateT σ (Except ε) β) : (x >>= f) s = .error e := by
  show Except.bind (x s) _ = _
  rw [h]
  rfl

/-- Two steps with the same outcome are followed in the same way. -/
theorem bind_of_same {x y : StateT σ (Except ε) α} {s t : σ} (h : x s = y t)
    (f : α → StateT σ (Except ε) β) : (x >>= f) s = (y >>= f) t := by
  show Except.bind (x s) _ = Except.bind (y t) _
  rw [h]

theorem error_ne_ok {e : ε} {a : α} : (.error e : Except ε α) ≠ .ok a := by
  intro h
  cases h

theorem eq_ok_of_toOption {x : Except ε α} {a : α} (h : x.toOption = some a) : x = .ok a := by
  cases x with
  | error e => cases h
  | ok b =>
    cases h
    rfl

/-- What follows a step succeeds only after the step. -/
theorem step_bind_eq_ok {x : StateT σ (Except ε) α} {f : α → StateT σ (Except ε) β} {s u : σ} {b : β} :
    (x >>= f) s = .ok (b, u) ↔ ∃ a t, x s = .ok (a, t) ∧ f a t = .ok (b, u) := by
  refine ⟨fun h => ?_, fun ⟨a, t, hx, hf⟩ => (bind_of_ok hx f).trans hf⟩
  match hx : x s with
  | .error e => exact absurd ((bind_of_error hx f).symm.trans h) fun he => nomatch he
  | .ok (a, t) => exact ⟨a, t, rfl, (bind_of_ok hx f).symm.trans h⟩

/-- Two steps that may fail succeed if the first does, and the second after it. -/
theorem bind_eq_ok {x : Except ε α} {f : α → Except ε β} {b : β} :
    (x >>= f) = .ok b ↔ ∃ a, x = .ok a ∧ f a = .ok b := by
  cases x with
  | error e => exact ⟨fun h => (nomatch h), fun ⟨_, h, _⟩ => (nomatch h)⟩
  | ok a =>
    refine ⟨fun h => ⟨a, rfl, h⟩, ?_⟩
    rintro ⟨a', ha, h⟩
    cases ha
    exact h

end Roster
