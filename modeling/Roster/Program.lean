/-!
# Programs of atomic actions

A program is a tree: it is done with a result, or takes an action and goes on with the answer. Each
action is one step that nothing can come between, so programs that run side by side take turns at
their actions, and a program that runs alone takes them all at once.

* `Program.run` runs a program alone, given what each action does to the state; `Program.trace` are the
  actions that it takes.
* `Program.expand` replaces every action by a program; `run_expand` says what that does to a
  run.
* `Program.answers` and `Program.after` take a list of actions one after another;
  `after_induction` says what every state on the way keeps.
* `run_forget` and `after_forget` say that states may hold more than the actions depend on.
-/

namespace Roster

/-- A program with actions `A`, the answers `R` to them and a result of type `α`. -/
inductive Program (A : Type) (R : A → Type) (α : Type) where
  | done (result : α)
  | act (action : A) (next : R action → Program A R α)

namespace Program

variable {A B : Type} {R : A → Type} {S : B → Type} {α β σ : Type}

/-- One program after another that gets its result. -/
def bind : Program A R α → (α → Program A R β) → Program A R β
  | .done a, f => f a
  | .act x next, f => .act x fun r => (next r).bind f

instance : Monad (Program A R) where
  pure := .done
  bind := bind

/-- The program that takes one action and gives the answer. -/
def take (x : A) : Program A R (R x) := .act x .done

/-- What actions do: the answer and the state afterwards. -/
abbrev Handler (A : Type) (R : A → Type) (σ : Type) := (x : A) → σ → R x × σ

/-- Runs a program alone. -/
def run (handle : Handler A R σ) : Program A R α → σ → α × σ
  | .done a, s => (a, s)
  | .act x next, s => (next (handle x s).1).run handle (handle x s).2

/-- The actions that a program takes when it runs alone, each with its answer. -/
def trace (handle : Handler A R σ) : Program A R α → σ → List ((x : A) × R x)
  | .done _, _ => []
  | .act x next, s => ⟨x, (handle x s).1⟩ :: (next (handle x s).1).trace handle (handle x s).2

/-- The program with every action replaced by a program that gives its answer. -/
def expand (f : (x : A) → Program B S (R x)) : Program A R α → Program B S α
  | .done a => .done a
  | .act x next => (f x).bind fun r => (next r).expand f

@[simp] theorem run_done (handle : Handler A R σ) (a : α) (s : σ) :
    (Program.done a : Program A R α).run handle s = (a, s) := rfl

@[simp] theorem run_pure (handle : Handler A R σ) (a : α) (s : σ) :
    (pure a : Program A R α).run handle s = (a, s) := rfl

@[simp] theorem run_act (handle : Handler A R σ) (x : A) (next : R x → Program A R α) (s : σ) :
    (Program.act x next).run handle s = (next (handle x s).1).run handle (handle x s).2 := rfl

@[simp] theorem run_take (handle : Handler A R σ) (x : A) (s : σ) :
    (take x : Program A R (R x)).run handle s = handle x s := rfl

theorem run_bind (handle : Handler A R σ) (p : Program A R α) (f : α → Program A R β) (s : σ) :
    (p.bind f).run handle s = (f (p.run handle s).1).run handle (p.run handle s).2 := by
  induction p generalizing s with
  | done a => rfl
  | act x next ih => simp only [bind, run_act, ih]

@[simp] theorem run_monad_bind (handle : Handler A R σ) (p : Program A R α)
    (f : α → Program A R β) (s : σ) :
    (p >>= f).run handle s = (f (p.run handle s).1).run handle (p.run handle s).2 :=
  run_bind handle p f s

theorem trace_bind (handle : Handler A R σ) (p : Program A R α) (f : α → Program A R β) (s : σ) :
    (p.bind f).trace handle s =
      p.trace handle s ++ (f (p.run handle s).1).trace handle (p.run handle s).2 := by
  induction p generalizing s with
  | done a => rfl
  | act x next ih => simp only [bind, trace, run_act, ih, List.cons_append]

@[simp] theorem trace_monad_bind (handle : Handler A R σ) (p : Program A R α)
    (f : α → Program A R β) (s : σ) :
    (p >>= f).trace handle s =
      p.trace handle s ++ (f (p.run handle s).1).trace handle (p.run handle s).2 :=
  trace_bind handle p f s

/-- What every action keeps holds after a program that runs alone. -/
theorem run_keeps {handle : Handler A R σ} {P : σ → Prop} (keep : ∀ x s, P s → P (handle x s).2)
    (p : Program A R α) {s : σ} (h : P s) : P (p.run handle s).2 := by
  induction p generalizing s with
  | done a => exact h
  | act x next ih => exact ih _ (keep x s h)

/-- If `f` forgets what actions do not depend on, it makes no difference when it does. -/
theorem run_forget {τ : Type} {fine : Handler A R τ} {handle : Handler A R σ} {f : τ → σ}
    (h : ∀ x t, ((fine x t).1, f (fine x t).2) = handle x (f t)) (p : Program A R α) (t : τ) :
    ((p.run fine t).1, f (p.run fine t).2) = p.run handle (f t) := by
  induction p generalizing t with
  | done a => rfl
  | act x next ih =>
    rw [run_act, run_act, ← h x t]
    exact ih _ _

/-- A run of an expanded program is a run of the program, each action handled by what it expands to. -/
theorem run_expand (handle : Handler B S σ) (f : (x : A) → Program B S (R x))
    (p : Program A R α) (s : σ) :
    (p.expand f).run handle s = p.run (fun x s => (f x).run handle s) s := by
  induction p generalizing s with
  | done a => rfl
  | act x next ih => simp only [expand, run_bind, run_act, ih]

/-! ### Actions one after another -/

/-- What actions that are taken one after another are answered, each action with its answer. -/
def answers (handle : Handler A R σ) : List A → σ → List ((x : A) × R x)
  | [], _ => []
  | x :: xs, s => ⟨x, (handle x s).1⟩ :: answers handle xs (handle x s).2

/-- The state after actions that are taken one after another. -/
def after (handle : Handler A R σ) : List A → σ → σ
  | [], s => s
  | x :: xs, s => after handle xs (handle x s).2

theorem answers_append (handle : Handler A R σ) (xs ys : List A) (s : σ) :
    answers handle (xs ++ ys) s = answers handle xs s ++ answers handle ys (after handle xs s) := by
  induction xs generalizing s with
  | nil => rfl
  | cons x xs ih => rw [List.cons_append, answers, ih, answers, after, List.cons_append]

theorem after_append (handle : Handler A R σ) (xs ys : List A) (s : σ) :
    after handle (xs ++ ys) s = after handle ys (after handle xs s) := by
  induction xs generalizing s with
  | nil => rfl
  | cons x xs ih => rw [List.cons_append, after, ih, after]

/-- Every action has an answer. -/
theorem length_answers (handle : Handler A R σ) (xs : List A) (s : σ) :
    (answers handle xs s).length = xs.length := by
  induction xs generalizing s with
  | nil => rfl
  | cons x xs ih => rw [answers, List.length_cons, List.length_cons, ih]

/-- What every action keeps holds after any number of them. -/
theorem after_induction {handle : Handler A R σ} {P : σ → Prop}
    (keep : ∀ x s, P s → P (handle x s).2) {s : σ} (h : P s) (xs : List A) :
    P (after handle xs s) := by
  induction xs generalizing s with
  | nil => exact h
  | cons x xs ih => exact ih (keep x s h)

/-- If `f` forgets what actions do not depend on, it makes no difference when it does. -/
theorem after_forget {τ : Type} {fine : Handler A R τ} {handle : Handler A R σ} {f : τ → σ}
    (h : ∀ x t, ((fine x t).1, f (fine x t).2) = handle x (f t)) (xs : List A) (t : τ) :
    answers fine xs t = answers handle xs (f t) ∧ f (after fine xs t) = after handle xs (f t) := by
  induction xs generalizing t with
  | nil => exact ⟨rfl, rfl⟩
  | cons x xs ih =>
    obtain ⟨hanswers, hafter⟩ := ih (fine x t).2
    rw [answers, answers, after, after, ← h x t, hanswers, hafter]
    exact ⟨rfl, rfl⟩

end Program

end Roster
