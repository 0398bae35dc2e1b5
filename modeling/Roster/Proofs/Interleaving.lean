import Roster.Program

/-!
# Requests side by side

Requests come at any time, and each of those under way may take its next step at any time. A step is
atomic; what happens between two steps of a request is up to the others.

* `Crowd` are the requests so far with the log of all steps, and `Crowd.run` lets them come and take
  steps in a given order.
* A *rule* says which steps may be taken after which log. `Program.Obeys` says that a program keeps to
  a rule as long as everybody else does, and what its result is then; `Obeys.bind` puts programs
  together.
* `Crowd.Orderly.run` says that a crowd of programs that obey keeps to the rule in every order, and
  `Crowd.answered_of_turns` that a request is answered once it has had its turns.
-/

namespace Roster

variable {A : Type} {R : A → Type} {α β σ Q : Type} {Reply : Q → Type}

/-! ### Logs -/

/-- A step that was taken: for which request, and what it was answered. -/
structure Step (A : Type) (R : A → Type) where
  who : Nat
  action : A
  answer : R action

/-- A step of a log is before a given one of its steps, or that one, or after it. -/
theorem step_split {α : Type} {early before rest : List α} {step last : α}
    (h : early ++ [step] <+: before ++ last :: rest) :
    early ++ [step] <+: before ∨ early = before ∧ step = last ∨ step ∈ rest := by
  induction before generalizing early with
  | nil =>
    cases early with
    | nil => exact Or.inr (Or.inl ⟨rfl, (List.cons_prefix_cons.1 h).1⟩)
    | cons x early =>
      have hrest := (List.cons_prefix_cons.1 h).2
      exact Or.inr (Or.inr (hrest.subset (List.mem_append_right early List.mem_cons_self)))
  | cons y before ih =>
    cases early with
    | nil =>
      refine Or.inl ?_
      rw [List.nil_append, (List.cons_prefix_cons.1 h).1]
      exact List.cons_prefix_cons.2 ⟨rfl, List.nil_prefix⟩
    | cons x early =>
      obtain ⟨rfl, htail⟩ := List.cons_prefix_cons.1 h
      rcases ih htail with hbefore | ⟨rfl, rfl⟩ | hafter
      · exact Or.inl (List.cons_prefix_cons.2 ⟨rfl, hbefore⟩)
      · exact Or.inr (Or.inl ⟨rfl, rfl⟩)
      · exact Or.inr (Or.inr hafter)

namespace Program

/-- The state that the steps of a log lead to. -/
def reached (handle : Handler A R σ) (s : σ) (log : List (Step A R)) : σ :=
  after handle (log.map (·.action)) s

theorem reached_append (handle : Handler A R σ) (s : σ) (log more : List (Step A R)) :
    reached handle s (log ++ more) = reached handle (reached handle s log) more := by
  simp only [reached]
  rw [List.map_append, after_append]

@[simp] theorem reached_snoc (handle : Handler A R σ) (s : σ) (log : List (Step A R))
    (step : Step A R) :
    reached handle s (log ++ [step]) = (handle step.action (reached handle s log)).2 :=
  reached_append handle s log [step]

/-- The step for a request after a log. -/
def stepOf (handle : Handler A R σ) (s : σ) (log : List (Step A R)) (who : Nat) (x : A) : Step A R :=
  ⟨who, x, (handle x (reached handle s log)).1⟩

/-- A rule for steps: which request may take which action after which log. -/
abbrev Rule (A : Type) (R : A → Type) := List (Step A R) → Nat → A → Prop

/-- Every step was answered in the state that the steps before it lead to, and kept to the rule. -/
def Lawful (handle : Handler A R σ) (s : σ) (rule : Rule A R) (log : List (Step A R)) : Prop :=
  ∀ early step, early ++ [step] <+: log →
    step = stepOf handle s early step.who step.action ∧ rule early step.who step.action

variable {handle : Handler A R σ} {s : σ} {rule : Rule A R} {log later : List (Step A R)} {who : Nat}

theorem Lawful.nil : Lawful handle s rule [] := by
  intro early step h
  exact absurd (List.prefix_nil.1 h) (by simp)

/-- A step that keeps to the rule may be taken. -/
theorem Lawful.snoc (h : Lawful handle s rule log) {x : A} (hx : rule log who x) :
    Lawful handle s rule (log ++ [stepOf handle s log who x]) := by
  intro early step hstep
  rcases List.prefix_concat_iff.1 hstep with heq | hbefore
  · obtain ⟨rfl, hlast⟩ := List.append_inj' heq rfl
    rw [List.singleton_inj.1 hlast]
    exact ⟨rfl, hx⟩
  · exact h early step hbefore

theorem Lawful.of_prefix (h : Lawful handle s rule later) (hlog : log <+: later) :
    Lawful handle s rule log := fun early step hstep => h early step (hstep.trans hlog)

/-! ### Programs that obey -/

/-- As long as all others keep to the rule, whatever they do between its steps, the program keeps to it
too, and ends with a result of which `post` holds from then on. -/
def Obeys (handle : Handler A R σ) (s : σ) (rule : Rule A R) (who : Nat)
    (post : List (Step A R) → α → Prop) : Program A R α → List (Step A R) → Prop
  | .done a, log => ∀ later, log <+: later → post later a
  | .act x next, log => ∀ later, log <+: later → Lawful handle s rule later →
      rule later who x ∧
        (next (handle x (reached handle s later)).1).Obeys handle s rule who post
          (later ++ [stepOf handle s later who x])

section Obeys

variable {post : List (Step A R) → α → Prop} {p : Program A R α}

theorem Obeys.mono (h : p.Obeys handle s rule who post log) (hlater : log <+: later) :
    p.Obeys handle s rule who post later := by
  cases p with
  | done a => exact fun final hfinal => h final (hlater.trans hfinal)
  | act x next => exact fun final hfinal => h final (hlater.trans hfinal)

theorem Obeys.imp {other : List (Step A R) → α → Prop} (h : p.Obeys handle s rule who post log)
    (himp : ∀ final a, log <+: final → post final a → other final a) :
    p.Obeys handle s rule who other log := by
  induction p generalizing log with
  | done a => exact fun final hfinal => himp final a hfinal (h final hfinal)
  | act x next ih =>
    intro later hlater hlawful
    obtain ⟨hrule, hnext⟩ := h later hlater hlawful
    refine ⟨hrule, ih _ hnext fun final a hfinal => himp final a ?_⟩
    exact (hlater.trans (List.prefix_append later _)).trans hfinal

/-- A program obeys if its first part does and the second does after every result that the first part
can have. -/
theorem Obeys.bind {last : List (Step A R) → β → Prop} {f : α → Program A R β}
    (h : p.Obeys handle s rule who post log)
    (hf : ∀ a later, log <+: later → post later a → (f a).Obeys handle s rule who last later) :
    (p >>= f).Obeys handle s rule who last log := by
  induction p generalizing log with
  | done a => exact hf a log (List.prefix_refl log) (h log (List.prefix_refl log))
  | act x next ih =>
    intro later hlater hlawful
    obtain ⟨hrule, hnext⟩ := h later hlater hlawful
    refine ⟨hrule, ih _ hnext fun a final hfinal => hf a final ?_⟩
    exact (hlater.trans (List.prefix_append later _)).trans hfinal

theorem obeys_act {x : A} {next : R x → Program A R α}
    (h : ∀ later, log <+: later → Lawful handle s rule later → rule later who x ∧
      (next (handle x (reached handle s later)).1).Obeys handle s rule who post
        (later ++ [stepOf handle s later who x])) :
    (act x next).Obeys handle s rule who post log := h

/-- A step is taken at some moment, and has been taken then from that moment on. -/
theorem obeys_take {x : A}
    (hrule : ∀ later, log <+: later → Lawful handle s rule later → rule later who x) :
    (take x : Program A R (R x)).Obeys handle s rule who
      (fun final a => ∃ early, log <+: early ∧ a = (handle x (reached handle s early)).1 ∧
        early ++ [stepOf handle s early who x] <+: final) log :=
  fun later hlater hlawful => ⟨hrule later hlater hlawful,
    fun _ hfinal => ⟨later, hlater, rfl, hfinal⟩⟩

end Obeys

/-! ### Steps of one request -/

/-- From one log to another the request takes these actions, one after another, among whatever else
happens. -/
def Takes (handle : Handler A R σ) (s : σ) (who : Nat) :
    List A → List (Step A R) → List (Step A R) → Prop
  | [], log, final => log <+: final
  | x :: xs, log, final =>
    ∃ early, log <+: early ∧ Takes handle s who xs (early ++ [stepOf handle s early who x]) final

section Takes

variable {xs ys : List A} {mid final : List (Step A R)}

theorem Takes.extend (h : Takes handle s who xs log mid) (hfinal : mid <+: final) :
    Takes handle s who xs log final := by
  induction xs generalizing log with
  | nil => exact h.trans hfinal
  | cons x xs ih =>
    obtain ⟨early, hearly, hrest⟩ := h
    exact ⟨early, hearly, ih hrest⟩

theorem Takes.after (h : Takes handle s who xs later final) (hlog : log <+: later) :
    Takes handle s who xs log final := by
  cases xs with
  | nil => exact hlog.trans h
  | cons x xs =>
    obtain ⟨early, hearly, hrest⟩ := h
    exact ⟨early, hlog.trans hearly, hrest⟩

theorem Takes.append (h : Takes handle s who xs log mid) (h' : Takes handle s who ys mid final) :
    Takes handle s who (xs ++ ys) log final := by
  induction xs generalizing log with
  | nil => exact h'.after h
  | cons x xs ih =>
    obtain ⟨early, hearly, hrest⟩ := h
    exact ⟨early, hearly, ih hrest⟩

theorem Takes.prefix (h : Takes handle s who xs log final) : log <+: final := by
  induction xs generalizing log with
  | nil => exact h
  | cons x xs ih =>
    obtain ⟨early, hearly, hrest⟩ := h
    exact hearly.trans ((List.prefix_append _ _).trans (ih hrest))

/-- Each of the actions was taken at some moment. -/
theorem Takes.of_mem (h : Takes handle s who xs log final) {x : A} (hx : x ∈ xs) :
    ∃ early, log <+: early ∧ early ++ [stepOf handle s early who x] <+: final := by
  induction xs generalizing log with
  | nil => cases hx
  | cons y ys ih =>
    obtain ⟨early, hearly, hrest⟩ := h
    rcases List.mem_cons.1 hx with rfl | hx
    · exact ⟨early, hearly, hrest.prefix⟩
    · obtain ⟨later, hlater, hstep⟩ := ih hrest hx
      exact ⟨later, hearly.trans ((List.prefix_append _ _).trans hlater), hstep⟩

end Takes

/-! ### The length of programs -/

/-- No run of the program takes more than so many of the actions that count. -/
def AtMost (counts : A → Bool) : Nat → Program A R α → Prop
  | _, .done _ => True
  | n, .act x next => (counts x).toNat ≤ n ∧ ∀ a, (next a).AtMost counts (n - (counts x).toNat)

section AtMost

variable {counts : A → Bool} {m n : Nat} {p : Program A R α}

theorem AtMost.mono (h : p.AtMost counts m) (hmn : m ≤ n) : p.AtMost counts n := by
  induction p generalizing m n with
  | done a => exact trivial
  | act x next ih =>
    obtain ⟨hx, hnext⟩ := h
    refine ⟨Nat.le_trans hx hmn, fun a => ih a (hnext a) ?_⟩
    omega

theorem AtMost.bind {f : α → Program A R β} (h : p.AtMost counts m)
    (hf : ∀ a, (f a).AtMost counts n) : (p >>= f).AtMost counts (m + n) := by
  induction p generalizing m with
  | done a => exact (hf a).mono (Nat.le_add_left n m)
  | act x next ih =>
    obtain ⟨hx, hnext⟩ := h
    refine ⟨Nat.le_trans hx (Nat.le_add_right m n), fun a => (ih a (hnext a)).mono ?_⟩
    omega

/-- One action more is at most one more that counts. -/
theorem atMost_act {x : A} {next : R x → Program A R α} (h : ∀ a, (next a).AtMost counts n) :
    (act x next).AtMost counts (n + 1) := by
  refine ⟨Nat.le_trans (Bool.toNat_le _) (Nat.le_add_left 1 n), fun a => (h a).mono ?_⟩
  have hx := Bool.toNat_le (counts x)
  omega

theorem atMost_take (x : A) : (take x : Program A R (R x)).AtMost counts (counts x).toNat :=
  ⟨Nat.le_refl _, fun _ => trivial⟩

end AtMost

end Program

open Program

/-! ### Requests under way -/

/-- A request under way: what had happened when it came, and what is left to do. -/
structure Errand (Q : Type) (Reply : Q → Type) (A : Type) (R : A → Type) where
  request : Q
  came : List (Step A R)
  rest : Program A R (Reply request)

/-- Its next action, and what is left to do once that is answered. -/
def Errand.next? : Errand Q Reply A R → Option ((x : A) × (R x → Errand Q Reply A R))
  | ⟨_, _, .done _⟩ => none
  | ⟨q, came, .act x next⟩ => some ⟨x, fun a => ⟨q, came, next a⟩⟩

/-- Its answer, once there is nothing left to do. -/
def Errand.answer? : Errand Q Reply A R → Option ((q : Q) × Reply q)
  | ⟨q, _, .done a⟩ => some ⟨q, a⟩
  | ⟨_, _, .act ..⟩ => none

/-- Requests side by side: the state they share, the steps so far, and the requests in the order in
which they came. -/
structure Crowd (Q : Type) (Reply : Q → Type) (A : Type) (R : A → Type) (σ : Type) where
  state : σ
  log : List (Step A R)
  errands : List (Errand Q Reply A R)

/-- A request comes, or the request of a number takes its next step. -/
inductive Move (Q : Type) where
  | come (request : Q)
  | turn (who : Nat)

/-- Whether it is a turn of the request of this number. -/
def Move.isTurn (who : Nat) : Move Q → Bool
  | .turn other => other = who
  | .come _ => false

namespace Crowd

/-- Nobody has come. -/
def start (s : σ) : Crowd Q Reply A R σ := ⟨s, [], []⟩

/-- What the request of a number was answered, if it is done. -/
def answer? (c : Crowd Q Reply A R σ) (who : Nat) : Option ((q : Q) × Reply q) :=
  c.errands[who]?.bind Errand.answer?

section Moves

variable (body : (q : Q) → Program A R (Reply q)) (handle : Handler A R σ)

/-- What a move does. It does nothing if there is no such request or nothing left to do. -/
def move (c : Crowd Q Reply A R σ) : Move Q → Crowd Q Reply A R σ
  | .come q => { c with errands := c.errands ++ [⟨q, c.log, body q⟩] }
  | .turn who =>
    match c.errands[who]?.bind Errand.next? with
    | none => c
    | some ⟨x, next⟩ =>
      ⟨(handle x c.state).2, c.log ++ [⟨who, x, (handle x c.state).1⟩],
        c.errands.set who (next (handle x c.state).1)⟩

/-- Makes moves one after another. -/
def run (moves : List (Move Q)) (c : Crowd Q Reply A R σ) : Crowd Q Reply A R σ :=
  moves.foldl (move body handle) c

variable {c : Crowd Q Reply A R σ} {who : Nat} {e : Errand Q Reply A R}

theorem run_append (moves more : List (Move Q)) (c : Crowd Q Reply A R σ) :
    c.run body handle (moves ++ more) = (c.run body handle moves).run body handle more :=
  List.foldl_append

/-- A turn of a request with something left to do takes its next step. -/
theorem move_turn {q : Q} {came : List (Step A R)} {x : A} {next : R x → Program A R (Reply q)}
    (h : c.errands[who]? = some ⟨q, came, .act x next⟩) :
    c.move body handle (.turn who) =
      ⟨(handle x c.state).2, c.log ++ [⟨who, x, (handle x c.state).1⟩],
        c.errands.set who ⟨q, came, next (handle x c.state).1⟩⟩ := by
  simp only [move]
  rw [h]
  rfl

/-- A turn takes the next step of a request, or there is none to take. -/
theorem turn_cases (c : Crowd Q Reply A R σ) (who : Nat) :
    (∃ q came x, ∃ next : R x → Program A R (Reply q),
        c.errands[who]? = some ⟨q, came, .act x next⟩) ∨
      c.move body handle (.turn who) = c ∧
        ∀ e, c.errands[who]? = some e → ∃ a, e.rest = .done a := by
  simp only [move]
  cases he : c.errands[who]? with
  | none => exact Or.inr ⟨rfl, fun e he => nomatch he⟩
  | some e =>
    rcases e with ⟨q, came, a | ⟨x, next⟩⟩
    · refine Or.inr ⟨rfl, fun e he => ?_⟩
      rw [← Option.some.inj he]
      exact ⟨a, rfl⟩
    · exact Or.inl ⟨q, came, x, next, rfl⟩

/-- A request that comes gets the next number. -/
theorem errands_come (q : Q) (c : Crowd Q Reply A R σ) :
    (c.move body handle (.come q)).errands[c.errands.length]? = some ⟨q, c.log, body q⟩ :=
  List.getElem?_concat_length

theorem errands_after_come {q : Q}
    (h : (c.move body handle (.come q)).errands[who]? = some e) :
    c.errands[who]? = some e ∨ who = c.errands.length ∧ e = ⟨q, c.log, body q⟩ := by
  simp only [move] at h
  rw [List.getElem?_append] at h
  split at h
  · exact Or.inl h
  · rw [List.getElem?_singleton] at h
    split at h
    · exact Or.inr ⟨by omega, (Option.some.inj h).symm⟩
    · cases h

theorem errands_after_turn {q : Q} {came : List (Step A R)} {x : A}
    {next : R x → Program A R (Reply q)} (he : c.errands[who]? = some ⟨q, came, .act x next⟩)
    {other : Nat} {e : Errand Q Reply A R}
    (h : (c.move body handle (.turn who)).errands[other]? = some e) :
    who ≠ other ∧ c.errands[other]? = some e ∨
      who = other ∧ e = ⟨q, came, next (handle x c.state).1⟩ := by
  rw [move_turn body handle he, List.getElem?_set] at h
  split at h
  · split at h
    · exact Or.inr ⟨‹_›, (Option.some.inj h).symm⟩
    · cases h
  · exact Or.inl ⟨‹_›, h⟩

theorem log_move (c : Crowd Q Reply A R σ) (m : Move Q) :
    c.log <+: (c.move body handle m).log := by
  cases m with
  | come q => exact List.prefix_refl _
  | turn who =>
    rcases turn_cases body handle c who with
      ⟨q, came, x, next, he⟩ | ⟨hsame, -⟩
    · rw [move_turn body handle he]
      exact List.prefix_append _ _
    · exact hsame.symm ▸ List.prefix_refl c.log

theorem log_run (moves : List (Move Q)) (c : Crowd Q Reply A R σ) :
    c.log <+: (c.run body handle moves).log := by
  induction moves generalizing c with
  | nil => exact List.prefix_refl _
  | cons m moves ih => exact (log_move body handle c m).trans (ih _)

/-- A request keeps its number, what it asked for and when it came. A turn of its own takes a step, if
there is one left, and no other move does. -/
theorem errands_move (h : c.errands[who]? = some e) (m : Move Q) :
    (c.move body handle m).errands[who]? = some e ∧
        (m.isTurn who = true → ∃ a, e.rest = .done a) ∨
      ∃ x, ∃ next : R x → Program A R (Reply e.request), e.rest = .act x next ∧
        (c.move body handle m).errands[who]? =
          some ⟨e.request, e.came, next (handle x c.state).1⟩ := by
  have hlt : who < c.errands.length := (List.getElem?_eq_some_iff.1 h).1
  cases m with
  | come q =>
    refine Or.inl ⟨?_, fun hturn => nomatch hturn⟩
    simp only [move]
    rw [List.getElem?_append_left hlt, h]
  | turn other =>
    rcases turn_cases body handle c other with
      ⟨q, came, x, next, he⟩ | ⟨hsame, hdone⟩
    · rw [move_turn body handle he]
      by_cases hwho : other = who
      · subst hwho
        rw [he] at h
        obtain rfl := Option.some.inj h
        exact Or.inr ⟨x, next, rfl, List.getElem?_set_self hlt⟩
      · refine Or.inl ⟨?_, fun hturn => absurd (of_decide_eq_true hturn) hwho⟩
        dsimp only
        rw [List.getElem?_set_ne hwho, h]
    · rw [hsame]
      refine Or.inl ⟨h, fun hturn => hdone e ?_⟩
      rw [of_decide_eq_true hturn, h]

theorem errands_run (moves : List (Move Q)) (h : c.errands[who]? = some e) :
    ∃ rest, (c.run body handle moves).errands[who]? = some ⟨e.request, e.came, rest⟩ := by
  induction moves generalizing c e with
  | nil => exact ⟨e.rest, h⟩
  | cons m moves ih =>
    rcases errands_move body handle h m with ⟨hkept, -⟩ | ⟨x, next, -, hstep⟩
    · exact ih hkept
    · exact ih (e := ⟨e.request, e.came, next (handle x c.state).1⟩) hstep

/-- A request that has had as many turns as it can take steps has been answered. -/
theorem answered_of_turns {n : Nat} {moves : List (Move Q)} (h : c.errands[who]? = some e)
    (hsteps : e.rest.AtMost (fun _ => true) n) (hturns : n ≤ moves.countP (Move.isTurn who)) :
    ∃ a, (c.run body handle moves).answer? who = some ⟨e.request, a⟩ := by
  induction moves generalizing c e n with
  | nil =>
    obtain rfl : n = 0 := Nat.le_zero.1 hturns
    rcases e with ⟨q, came, a | ⟨x, next⟩⟩
    · refine ⟨a, ?_⟩
      simp only [run, answer?, List.foldl_nil]
      rw [h]
      rfl
    · exact absurd hsteps.1 (Nat.not_succ_le_zero 0)
  | cons m moves ih =>
    rw [List.countP_cons] at hturns
    rcases errands_move body handle h m with ⟨hkept, hdone⟩ | ⟨x, next, hrest, hstep⟩
    · by_cases hturn : m.isTurn who = true
      · obtain ⟨a, ha⟩ := hdone hturn
        refine ih (n := 0) hkept ?_ (Nat.zero_le _)
        rw [ha]
        exact trivial
      · refine ih hkept hsteps ?_
        rwa [if_neg hturn, Nat.add_zero] at hturns
    · rw [hrest] at hsteps
      refine ih (n := n - 1) (e := ⟨e.request, e.came, next (handle x c.state).1⟩) hstep
        (hsteps.2 _) ?_
      split at hturns <;> omega

/-- A request that takes all its turns in a row does what it does alone. -/
theorem turns_alone {q : Q} {came : List (Step A R)} {p : Program A R (Reply q)}
    (h : c.errands[who]? = some ⟨q, came, p⟩) :
    ∃ n, (c.run body handle (List.replicate n (.turn who))).state = (p.run handle c.state).2 := by
  induction p generalizing c with
  | done a => exact ⟨0, rfl⟩
  | act x next ih =>
    have hlt : who < c.errands.length := (List.getElem?_eq_some_iff.1 h).1
    have hmove := move_turn body handle h
    have hnext : (c.move body handle (.turn who)).errands[who]? =
        some ⟨q, came, next (handle x c.state).1⟩ := by
      rw [hmove]
      exact List.getElem?_set_self hlt
    obtain ⟨n, hn⟩ := ih _ hnext
    refine ⟨n + 1, ?_⟩
    rw [List.replicate_succ]
    show ((c.move body handle (.turn who)).run body handle _).state = _
    rw [hn, hmove]
    rfl

/-- What requests do one after another is one of the things that they do side by side. -/
theorem exists_moves_alone (qs : List Q) (c : Crowd Q Reply A R σ) :
    ∃ moves, (c.run body handle moves).state =
      after (fun q s => (body q).run handle s) qs c.state := by
  induction qs generalizing c with
  | nil => exact ⟨[], rfl⟩
  | cons q qs ih =>
    obtain ⟨n, hn⟩ := turns_alone body handle (errands_come body handle q c)
    have hcome : (c.move body handle (.come q)).state = c.state := rfl
    obtain ⟨moves, hmoves⟩ := ih ((c.move body handle (.come q)).run body handle
      (List.replicate n (.turn c.errands.length)))
    refine ⟨.come q :: (List.replicate n (.turn c.errands.length) ++ moves), ?_⟩
    show ((c.move body handle (.come q)).run body handle _).state = _
    rw [run_append, hmoves, hn, hcome]
    rfl

/-- How many of the actions that count were taken for a request. -/
def stepsOf (counts : A → Bool) (who : Nat) (log : List (Step A R)) : Nat :=
  log.countP fun step => step.who = who && counts step.action

theorem stepsOf_snoc (counts : A → Bool) (who : Nat) (log : List (Step A R)) (step : Step A R) :
    stepsOf counts who (log ++ [step]) =
      stepsOf counts who log + (step.who = who && counts step.action).toNat := by
  simp only [stepsOf]
  rw [List.countP_append, List.countP_singleton]
  cases (step.who = who && counts step.action : Bool) <;> rfl

theorem stepsOf_mono (counts : A → Bool) (who : Nat) {log later : List (Step A R)}
    (h : log <+: later) : stepsOf counts who log ≤ stepsOf counts who later :=
  h.sublist.countP_le

/-- A request that takes only one action that counts takes it at one moment. -/
theorem eq_of_stepsOf_le_one {counts : A → Bool} {log early other : List (Step A R)}
    {step step' : Step A R} (hle : stepsOf counts who log ≤ 1) (h : early ++ [step] <+: log)
    (hstep : (step.who = who && counts step.action) = true) (h' : other ++ [step'] <+: log)
    (hstep' : (step'.who = who && counts step'.action) = true) : early = other := by
  have honce : ∀ {early other : List (Step A R)} {step step' : Step A R},
      (step.who = who && counts step.action) = true →
      (step'.who = who && counts step'.action) = true → other ++ [step'] <+: log →
      ¬ early ++ [step] <+: other := by
    intro early other step step' hstep hstep' hlog hbefore
    have hfirst := stepsOf_mono counts who hbefore
    have hsecond := stepsOf_mono counts who hlog
    rw [stepsOf_snoc, hstep] at hfirst
    rw [stepsOf_snoc, hstep'] at hsecond
    simp only [Bool.toNat_true] at hfirst hsecond
    omega
  rcases List.prefix_or_prefix_of_prefix h h' with hbefore | hafter
  · rcases List.prefix_concat_iff.1 hbefore with heq | hbefore
    · exact (List.append_inj' heq rfl).1
    · exact absurd hbefore (honce hstep hstep' h')
  · rcases List.prefix_concat_iff.1 hafter with heq | hafter
    · exact (List.append_inj' heq rfl).1.symm
    · exact absurd hafter (honce hstep' hstep h)

/-- What the requests have taken of the actions that count, and what they have yet to take, is
limited. -/
def Limited (counts : A → Bool) (n : Nat) (c : Crowd Q Reply A R σ) : Prop :=
  ∀ who, (c.errands[who]? = none → stepsOf counts who c.log = 0) ∧
    ∀ e, c.errands[who]? = some e →
      ∃ k, e.rest.AtMost counts k ∧ stepsOf counts who c.log + k ≤ n

theorem Limited.start (counts : A → Bool) (n : Nat) (s : σ) :
    (start s : Crowd Q Reply A R σ).Limited counts n :=
  fun _ => ⟨fun _ => rfl, fun _ h => nomatch h⟩

theorem Limited.move {counts : A → Bool} {n : Nat} (hbody : ∀ q, (body q).AtMost counts n)
    (h : c.Limited counts n) (m : Move Q) : (c.move body handle m).Limited counts n := by
  intro other
  cases m with
  | come q =>
    have hnone : (c.move body handle (.come q)).errands[other]? = none →
        c.errands[other]? = none := by
      intro hother
      simp only [Crowd.move, List.getElem?_eq_none_iff, List.length_append] at hother ⊢
      omega
    refine ⟨fun hother => (h other).1 (hnone hother), fun e he => ?_⟩
    rcases errands_after_come body handle he with hbefore | ⟨rfl, rfl⟩
    · exact (h other).2 e hbefore
    · have hfresh := (h c.errands.length).1 (List.getElem?_eq_none (Nat.le_refl _))
      exact ⟨n, hbody q, by simp only [Crowd.move]; omega⟩
  | turn who =>
    rcases turn_cases body handle c who with ⟨q, came, x, next, he⟩ | ⟨hsame, -⟩
    · have hlog : (c.move body handle (.turn who)).log =
          c.log ++ [⟨who, x, (handle x c.state).1⟩] := by rw [move_turn body handle he]
      rw [hlog, stepsOf_snoc]
      refine ⟨fun hother => ?_, fun e hother => ?_⟩
      · have hlength : (c.move body handle (.turn who)).errands.length = c.errands.length := by
          rw [move_turn body handle he, List.length_set]
        have hlt : who < c.errands.length := (List.getElem?_eq_some_iff.1 he).1
        rw [List.getElem?_eq_none_iff, hlength] at hother
        have hne : who ≠ other := by omega
        rw [(h other).1 (List.getElem?_eq_none hother)]
        simp [hne]
      · rcases errands_after_turn body handle he hother with ⟨hne, hbefore⟩ | ⟨rfl, rfl⟩
        · simpa [hne] using (h other).2 e hbefore
        · obtain ⟨k, ⟨hx, hnext⟩, hk⟩ := (h who).2 _ he
          refine ⟨k - (counts x).toNat, hnext _, ?_⟩
          simp only [decide_true, Bool.true_and]
          omega
    · rw [hsame]
      exact h other

theorem Limited.run {counts : A → Bool} {n : Nat} (hbody : ∀ q, (body q).AtMost counts n)
    (h : c.Limited counts n) (moves : List (Move Q)) :
    (c.run body handle moves).Limited counts n := by
  induction moves generalizing c with
  | nil => exact h
  | cons m moves ih => exact ih (h.move body handle hbody m)

/-- No request takes more than it can of the actions that count. -/
theorem Limited.stepsOf_le {counts : A → Bool} {n : Nat} (h : c.Limited counts n) (who : Nat) :
    stepsOf counts who c.log ≤ n := by
  cases he : c.errands[who]? with
  | none =>
    rw [(h who).1 he]
    exact Nat.zero_le n
  | some e =>
    obtain ⟨k, -, hk⟩ := (h who).2 e he
    omega

/-! ### Obedience -/

/-- The steps were taken one after another and kept to the rule, and every request goes on to do so. -/
structure Orderly (handle : Handler A R σ) (s : σ) (rule : Rule A R)
    (post : (q : Q) → Nat → List (Step A R) → List (Step A R) → Reply q → Prop)
    (c : Crowd Q Reply A R σ) : Prop where
  state : c.state = reached handle s c.log
  lawful : Lawful handle s rule c.log
  came {who : Nat} {e : Errand Q Reply A R} : c.errands[who]? = some e → e.came <+: c.log
  obeys {who : Nat} {e : Errand Q Reply A R} : c.errands[who]? = some e →
    e.rest.Obeys handle s rule who (post e.request who e.came) c.log

variable {body handle} {s : σ} {rule : Rule A R}
  {post : (q : Q) → Nat → List (Step A R) → List (Step A R) → Reply q → Prop}

theorem Orderly.start : (start s : Crowd Q Reply A R σ).Orderly handle s rule post where
  state := rfl
  lawful := Lawful.nil
  came h := nomatch h
  obeys h := nomatch h

theorem Orderly.come
    (hbody : ∀ q who log, (body q).Obeys handle s rule who (post q who log) log)
    (h : c.Orderly handle s rule post) (q : Q) :
    (c.move body handle (.come q)).Orderly handle s rule post := by
  refine ⟨h.state, h.lawful, fun he => ?_, fun {who e} he => ?_⟩
  · rcases errands_after_come body handle he with hbefore | ⟨-, rfl⟩
    · exact h.came hbefore
    · exact List.prefix_refl _
  · rcases errands_after_come body handle he with hbefore | ⟨-, rfl⟩
    · exact h.obeys hbefore
    · exact hbody q who c.log

theorem Orderly.turn (h : c.Orderly handle s rule post) (who : Nat) :
    (c.move body handle (.turn who)).Orderly handle s rule post := by
  rcases turn_cases body handle c who with
    ⟨q, came, x, next, he⟩ | ⟨hsame, -⟩
  · obtain ⟨hrule, hnext⟩ := h.obeys he c.log (List.prefix_refl _) h.lawful
    have hlog : c.log <+: c.log ++ [stepOf handle s c.log who x] := List.prefix_append _ _
    have hmove := move_turn body handle he
    rw [h.state] at hmove
    refine ⟨?_, ?_, fun {other e} hother => ?_, fun {other e} hother => ?_⟩
    · rw [hmove]
      exact (reached_snoc handle s c.log ⟨who, x, _⟩).symm
    · rw [hmove]
      exact h.lawful.snoc hrule
    · rw [hmove]
      rcases errands_after_turn body handle he hother with ⟨-, hbefore⟩ | ⟨-, rfl⟩
      · exact (h.came hbefore).trans hlog
      · exact (h.came he).trans hlog
    · rw [hmove]
      rcases errands_after_turn body handle he hother with ⟨-, hbefore⟩ | ⟨rfl, rfl⟩
      · exact (h.obeys hbefore).mono hlog
      · rw [h.state]
        exact hnext
  · rw [hsame]
    exact h

/-- However its requests come and take turns, a crowd of programs that obey stays orderly. -/
theorem Orderly.run
    (hbody : ∀ q who log, (body q).Obeys handle s rule who (post q who log) log)
    (h : c.Orderly handle s rule post) (moves : List (Move Q)) :
    (c.run body handle moves).Orderly handle s rule post := by
  induction moves generalizing c with
  | nil => exact h
  | cons m moves ih =>
    cases m with
    | come q => exact ih (h.come hbody q)
    | turn who => exact ih (h.turn who)

/-- A request that was answered got an answer that it can have. -/
theorem Orderly.post_of_answer (h : c.Orderly handle s rule post) {q : Q} {a : Reply q}
    (ha : c.answer? who = some ⟨q, a⟩) :
    ∃ came, came <+: c.log ∧ c.errands[who]? = some ⟨q, came, .done a⟩ ∧ post q who came c.log a := by
  obtain ⟨e, he, hanswer⟩ := Option.bind_eq_some_iff.1 ha
  rcases e with ⟨q', came, a' | ⟨x, next⟩⟩
  · cases hanswer
    exact ⟨came, h.came he, he, h.obeys he c.log (List.prefix_refl _)⟩
  · cases hanswer

end Moves

end Crowd

end Roster
