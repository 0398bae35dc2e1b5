import Roster.Proofs.Service.Dated

/-!
# A cache changes no answers

In front of the service on a repository, with no remote tier or with a faithful one, a cache gives
every answer that the service alone would give, in every run of operations and whatever the local tier
admits or loses.

* `Agrees` is the invariant for users: what a tier holds under the key of a user is the live user.
  It is kept by every operation, for ever.
* `PagesAgree` is the invariant for pages: what a tier holds for the present generation is the page,
  and nothing is held for later ones. Generations are counted with 64 bits, so it says how many
  changes there may still be before the counter starts again.
* `Cold` tiers hold nothing that can be read. `answers_cached` compares the runs from there.
-/

namespace Roster.Service

open Roster.Cache Roster.Number Roster.Store Roster.Time

variable {ρ : Type}

/-- Whether an operation asks for a page. -/
def Operation.isList : Operation → Bool
  | .list _ => true
  | _ => false

/-- How many of the answers in a run say that the directory was changed. -/
def changes (answers : List ((op : Operation) × op.Reply)) : Nat :=
  answers.countP fun a => a.1.changed a.2

/-- The answers in a run except for pages. -/
def apartFromPages (answers : List ((op : Operation) × op.Reply)) :
    List ((op : Operation) × op.Reply) := answers.filter fun a => !a.1.isList

/-! ### The invariants -/

/-- The table is sound, the remote tier is in a state in which it is a map, and every user whom a tier
holds is the live user under that id. -/
structure Agrees (cache : Layered ρ) (may : ρ → Prop) (view : ρ → String → Option ByteArray)
    (s : Fronted ρ) : Prop where
  sound : s.behind.store.table.Sound
  far : may s.tiers.far
  user {id : UserId} {bytes : ByteArray} {u : User} :
    cache.Holds view s.tiers (userKey id) bytes → decodeUser? bytes = some u → s.live id = some u

/-- There can be so many changes more before the generations start again, and every page that a tier
holds for the present generation or a later one is the page of the present one. -/
structure PagesAgree (cache : Layered ρ) (view : ρ → String → Option ByteArray) (left : Nat)
    (s : Fronted ρ) : Prop where
  room : s.generation.current + left ≤ wordMax
  page {g : Nat} {r : PageRequest} {bytes : ByteArray} {b : Bundle} :
    s.generation.current ≤ g → cache.Holds view s.tiers (pageKey g r) bytes →
      decodeBundle? bytes = some b →
        g = s.generation.current ∧ b.page r = s.behind.store.table.page r

/-- No tier holds a user under the key of a user, or a page under the key of a page. -/
structure Cold (cache : Layered ρ) (view : ρ → String → Option ByteArray) (t : Tiers ρ) : Prop where
  no_user {id : UserId} {bytes : ByteArray} :
    cache.Holds view t (userKey id) bytes → decodeUser? bytes = none
  no_page {g : Nat} {r : PageRequest} {bytes : ByteArray} :
    cache.Holds view t (pageKey g r) bytes → decodeBundle? bytes = none

/-- Tiers without entries are cold. -/
theorem Cold.of_empty {cache : Layered ρ} {view : ρ → String → Option ByteArray} {near : Local}
    {far : ρ} (hnear : near.entries = []) (hfar : ∀ key, view far key = none) :
    Cold cache view (Layered.start near far) := by
  have hnone : ∀ key bytes, ¬ cache.Holds view (Layered.start near far) key bytes := by
    rintro key bytes (hh | hh)
    · simp only [Layered.start] at hh
      rw [Local.find?_of_no_entries hnear] at hh
      cases hh
    · simp only [Layered.far?, Layered.start] at hh
      rw [hfar] at hh
      split at hh <;> cases hh
  exact ⟨fun hh => absurd hh (hnone _ _), fun hh => absurd hh (hnone _ _)⟩

section Run

variable {cache : Layered ρ} {may : ρ → Prop} {view : ρ → String → Option ByteArray}
  (h : cache.Faithful may view) {s : Fronted ρ}

theorem Agrees.of_cold {w : World Repository} {g : Generation} {t : Tiers ρ}
    (hsound : w.store.table.Sound) (hfar : may t.far) (hcold : Cold cache view t) :
    Agrees cache may view ⟨w, g, t⟩ where
  sound := hsound
  far := hfar
  user hh hd := by
    rw [hcold.no_user hh] at hd
    cases hd

theorem PagesAgree.of_cold {w : World Repository} {t : Tiers ρ} {left : Nat}
    (hleft : left ≤ wordMax) (hcold : Cold cache view t) :
    PagesAgree cache view left ⟨w, .first, t⟩ where
  room := by
    show 0 + left ≤ wordMax
    rwa [Nat.zero_add]
  page _ hh hd := by
    rw [hcold.no_page hh] at hd
    cases hd

include h

/-! ### One operation -/

/-- What a tier answers for a user is the live user. -/
theorem Agrees.live_of_get (ha : Agrees cache may view s) {id : UserId} {u : User}
    (hg : (cache.get (userKey id) s.tiers).1.bind decodeUser? = some u) : s.live id = some u := by
  obtain ⟨bytes, hbytes, hd⟩ := Option.bind_eq_some_iff.1 hg
  exact ha.user (Layered.holds_of_get h ha.far hbytes) hd

/-- Every operation keeps the invariant for users. -/
theorem Agrees.step (ha : Agrees cache may view s) (op : Operation) :
    Agrees cache may view ((fronted cache).run op s).2 where
  sound := by
    rw [step_behind]
    exact base_sound ha.sound op
  far := may_step h.tracked ha.far op
  user {id bytes v} hh hd := by
    rcases user_copy h.tracked ha.far ha.sound hd hh with
      hlive | ⟨before, same⟩ | ⟨-, answer, -, same⟩
    · exact hlive
    · rw [same trivial]
      exact ha.user before hd
    · rw [same]
      exact ha.user (Layered.holds_of_get h ha.far answer) hd

omit h in
/-- What a tier holds of a page of the present generation or a later one was taken just now. -/
theorem PagesAgree.dated {left : Nat} (hp : PagesAgree cache view left s) :
    Dated (cache.Holds view)
      (fun g r p => s.generation.current ≤ g → g = s.generation.current ∧ p = s.page r) s.tiers where
  taken hh hd hg := hp.page hg hh hd

/-- What is held of pages after an operation was held before, or is a page of the generation before. -/
theorem PagesAgree.page_before {left : Nat} (ha : Agrees cache may view s)
    (hp : PagesAgree cache view left s) (op : Operation) {g : Nat} {r : PageRequest}
    {bytes : ByteArray} {b : Bundle} (hg : s.generation.current ≤ g)
    (hh : cache.Holds view ((fronted cache).run op s).2.tiers (pageKey g r) bytes)
    (hd : decodeBundle? bytes = some b) :
    g = s.generation.current ∧ b.page r = s.behind.store.table.page r := by
  have hnext := hp.dated.step h.traced ha.far ha.sound (fun r _ => ⟨rfl, rfl⟩) op
  exact hnext.taken hh hd hg

/-- A change uses up one of the changes that are left, and every other operation keeps the invariant
for pages. -/
theorem PagesAgree.step {left : Nat} (ha : Agrees cache may view s)
    (hp : PagesAgree cache view left s) (op : Operation)
    (hleft : op.changed ((base tableBacking).run op s.behind).1 = true → 0 < left) :
    PagesAgree cache view
      (if op.changed ((base tableBacking).run op s.behind).1 then left - 1 else left)
      ((fronted cache).run op s).2 := by
  have hroom := hp.room
  cases hchanged : op.changed ((base tableBacking).run op s.behind).1 with
  | true =>
    have hpos := hleft hchanged
    have hgen : ((fronted cache).run op s).2.generation.current = s.generation.current + 1 := by
      rw [step_generation, if_pos hchanged]
      exact wrapped_of_le (by omega)
    refine ⟨?_, fun {g r bytes b} hg hh hd => ?_⟩
    · rw [hgen, if_pos rfl]
      omega
    · rw [hgen] at hg
      obtain ⟨hsame, -⟩ := hp.page_before h ha op (by omega) hh hd
      omega
  | false =>
    have hgen : ((fronted cache).run op s).2.generation = s.generation := by
      rw [step_generation, if_neg (by rw [hchanged]; decide)]
    refine ⟨?_, fun {g r bytes b} hg hh hd => ?_⟩
    · rw [hgen, if_neg (by decide)]
      exact hroom
    · rw [hgen] at hg ⊢
      rw [step_behind, base_unchanged hchanged]
      exact hp.page_before h ha op hg hh hd

/-! ### Answers -/

/-- Every operation but a listing is answered as by the service behind. -/
theorem Agrees.answer (ha : Agrees cache may view s) {op : Operation} (hop : op.isList = false) :
    ((fronted cache).run op s).1 = ((base tableBacking).run op s.behind).1 := by
  cases op with
  | create r =>
    rw [cached_create]
    rcases (base tableBacking).run (.create r) s.behind with ⟨e | u, b⟩ <;> rfl
  | get id =>
    rw [cached_get, base_get]
    cases hg : (cache.get (userKey id) s.tiers).1.bind decodeUser? with
    | some u =>
      have hlive : s.behind.store.table.find? id = some u := ha.live_of_get h hg
      rw [hlive]
    | none => cases s.behind.store.table.find? id <;> rfl
  | update id r =>
    rw [cached_update]
    rcases (base tableBacking).run (.update id r) s.behind with ⟨e | u, b⟩ <;> rfl
  | delete id =>
    rw [cached_delete]
    rcases (base tableBacking).run (.delete id) s.behind with ⟨e | u, b⟩ <;> rfl
  | list r => cases hop

/-- A listing is answered as by the service behind, until the generations start again. -/
theorem PagesAgree.answer {left : Nat} (ha : Agrees cache may view s)
    (hp : PagesAgree cache view left s) (r : PageRequest) :
    ((fronted cache).run (.list r) s).1 = ((base tableBacking).run (.list r) s.behind).1 := by
  obtain ⟨p, hanswer, hpage⟩ := hp.dated.listing h.traced ha.far (r := r) fun _ => ⟨rfl, rfl⟩
  rw [hanswer, base_list, (hpage (Nat.le_refl _)).2]
  rfl

/-! ### Runs -/

theorem Agrees.answers_apart_from_pages (ha : Agrees cache may view s) (ops : List Operation) :
    apartFromPages (Program.answers (fronted cache).run ops s) =
      apartFromPages (Program.answers (base tableBacking).run ops s.behind) := by
  induction ops generalizing s with
  | nil => rfl
  | cons op ops ih =>
    have hrest := ih (ha.step h op)
    rw [step_behind] at hrest
    simp only [apartFromPages] at hrest ⊢
    rw [Program.answers, Program.answers]
    cases hop : op.isList with
    | true =>
      rw [List.filter_cons_of_neg (by simp [hop]), List.filter_cons_of_neg (by simp [hop])]
      exact hrest
    | false =>
      rw [List.filter_cons_of_pos (by simp [hop]), List.filter_cons_of_pos (by simp [hop]), hrest,
        ha.answer h hop]

theorem PagesAgree.answers {left : Nat} (ha : Agrees cache may view s)
    (hp : PagesAgree cache view left s) (ops : List Operation)
    (hleft : changes (Program.answers (base tableBacking).run ops s.behind) ≤ left) :
    Program.answers (fronted cache).run ops s =
      Program.answers (base tableBacking).run ops s.behind := by
  induction ops generalizing s left with
  | nil => rfl
  | cons op ops ih =>
    have hanswer : ((fronted cache).run op s).1 = ((base tableBacking).run op s.behind).1 := by
      cases hop : op.isList with
      | true =>
        cases op with
        | list r => exact hp.answer h ha r
        | _ => cases hop
      | false => exact ha.answer h hop
    have hcount : changes (Program.answers (base tableBacking).run ops
        ((base tableBacking).run op s.behind).2) +
          (if op.changed ((base tableBacking).run op s.behind).1 then 1 else 0) ≤ left := by
      simp only [changes] at hleft ⊢
      rwa [Program.answers, List.countP_cons] at hleft
    have hrest := ih (ha.step h op) (hp.step h ha op fun hc => by
      rw [if_pos hc] at hcount
      omega) (by
      rw [step_behind]
      by_cases hc : op.changed ((base tableBacking).run op s.behind).1 = true
      · rw [if_pos hc] at hcount ⊢
        omega
      · rw [if_neg hc] at hcount ⊢
        omega)
    rw [step_behind] at hrest
    rw [Program.answers, Program.answers, hanswer, hrest]

end Run

/-- A cache that is cold at first changes no answer: never one to an operation on a single user, and
none at all in a run with fewer changes than there are generations. After `2 ^ 64` changes a
generation would come back, and with it the pages that a tier still holds for it. -/
theorem answers_cached {cache : Layered ρ} {may : ρ → Prop} {view : ρ → String → Option ByteArray}
    (h : cache.Faithful may view) {w : World Repository} (hsound : w.store.table.Sound)
    {t : Tiers ρ} (hfar : may t.far) (hcold : Cold cache view t) (ops : List Operation) :
    apartFromPages (Program.answers (fronted cache).run ops ⟨w, .first, t⟩) =
        apartFromPages (Program.answers (base tableBacking).run ops w) ∧
      (changes (Program.answers (base tableBacking).run ops w) ≤ wordMax →
        Program.answers (fronted cache).run ops ⟨w, .first, t⟩ =
          Program.answers (base tableBacking).run ops w) := by
  have ha : Agrees cache may view ⟨w, .first, t⟩ := .of_cold hsound hfar hcold
  refine ⟨ha.answers_apart_from_pages h ops, fun hchanges => ?_⟩
  exact PagesAgree.answers h ha (.of_cold hchanges hcold) ops (Nat.le_refl _)

/-- A run in which a user is created, listed, changed, listed again, deleted and looked for. -/
def trialRun : List Operation :=
  [.create ⟨"Jane", "jane@example.org"⟩, .list .first, .update (.inSeries 0) ⟨some "Janet", none⟩,
    .list .first, .delete (.inSeries 0), .get (.inSeries 0), .list .first]

theorem answers_cached_in_trial :
    Program.answers (fronted (Simulated.layered ⟨0⟩ ⟨0⟩)).run trialRun
        ⟨⟨.empty, .still⟩, .first, Layered.start (.ofSizing ⟨10, 1000, 1⟩) (.ofBehaviour .map)⟩ =
      Program.answers (base tableBacking).run trialRun ⟨.empty, .still⟩ := by
  refine (answers_cached (Simulated.layered_faithful ⟨0⟩ ⟨0⟩) Table.sound_nil rfl
    (Cold.of_empty rfl fun _ => rfl) trialRun).2 ?_
  exact Nat.le_trans List.countP_le_length (by decide)

end Roster.Service
