import Mathlib.Data.List.Induction
import Roster.Proofs.Service.Transparency

/-!
# Transactions go past the cache

A transaction works on the service behind and on nothing else: it removes no copy and begins no new
generation. Without a remote tier, what the local one has cached before stays there, and is answered,
until a change by an operation or maintenance takes it away.

* `Overtaken` is a copy that a transaction made wrong and that has been held ever since.
* `fits_or_overtaken` says that a held copy is right or overtaken, provided that no operation makes it
  wrong; `user_fits_or_overtaken` and `page_fits_or_overtaken` are about users and pages.
* `misread_iff_overtaken` says that this is the only way in which a user or a page can be read wrongly.
-/

namespace Roster.Service

open Roster.Cache Roster.Number Roster.Store

variable {α ρ : Type}

/-- The state after requests. -/
abbrev afterRequests (cache : Layered ρ) (requests : List (Request α)) (s : Fronted ρ) : Fronted ρ :=
  Program.after (fronted cache).answer requests s

/-- In a run a transaction is made before which some bytes fit and after which they no longer do, and the
local tier has held them under a key ever since. -/
def Overtaken (cache : Layered ρ) (key : String) (bytes : ByteArray) (fits : Fronted ρ → Prop)
    (requests : List (Request α)) (s : Fronted ρ) : Prop :=
  ∃ before body since, requests = before ++ .transaction body :: since ∧
    fits (afterRequests cache before s) ∧
    ∀ done rest, since = done ++ rest →
      (afterRequests cache (before ++ .transaction body :: done) s).tiers.near.find? key = some bytes ∧
        ¬ fits (afterRequests cache (before ++ .transaction body :: done) s)

section Overtaken

variable {cache : Layered ρ} {key : String} {bytes : ByteArray} {fits : Fronted ρ → Prop}
  {requests : List (Request α)} {s : Fronted ρ}

theorem afterRequests_concat (cache : Layered ρ) (requests : List (Request α)) (q : Request α)
    (s : Fronted ρ) : afterRequests cache (requests ++ [q]) s =
      ((fronted cache).answer q (afterRequests cache requests s)).2 := Program.after_append ..

/-- What is overtaken is still held, and still does not fit. -/
theorem Overtaken.now (h : Overtaken cache key bytes fits requests s) :
    (afterRequests cache requests s).tiers.near.find? key = some bytes ∧
      ¬ fits (afterRequests cache requests s) := by
  obtain ⟨before, body, since, rfl, -, hsince⟩ := h
  exact hsince since [] (List.append_nil since).symm

/-- A transaction overtakes what fits before it and is held. -/
theorem Overtaken.of_transaction (hfits : fits (afterRequests cache requests s)) {body : Closure α}
    (hheld : (afterRequests cache (requests ++ [.transaction body]) s).tiers.near.find? key = some bytes)
    (hnot : ¬ fits (afterRequests cache (requests ++ [.transaction body]) s)) :
    Overtaken cache key bytes fits (requests ++ [.transaction body]) s := by
  refine ⟨requests, body, [], rfl, hfits, ?_⟩
  intro done rest heq
  obtain ⟨rfl, -⟩ := List.append_eq_nil_iff.1 heq.symm
  exact ⟨hheld, hnot⟩

/-- What is overtaken stays so as long as it is held and does not fit. -/
theorem Overtaken.extend (h : Overtaken cache key bytes fits requests s) {q : Request α}
    (hheld : (afterRequests cache (requests ++ [q]) s).tiers.near.find? key = some bytes)
    (hnot : ¬ fits (afterRequests cache (requests ++ [q]) s)) :
    Overtaken cache key bytes fits (requests ++ [q]) s := by
  obtain ⟨before, body, since, rfl, hfits, hsince⟩ := h
  refine ⟨before, body, since ++ [q], by simp, hfits, ?_⟩
  intro done rest heq
  rcases List.eq_nil_or_concat rest with rfl | ⟨rest, last, rfl⟩
  · rw [List.append_nil] at heq
    rw [← heq, ← List.cons_append, ← List.append_assoc]
    exact ⟨hheld, hnot⟩
  · rw [List.concat_eq_append, ← List.append_assoc] at heq
    obtain ⟨hsplit, -⟩ := List.append_inj' heq rfl
    exact hsince done rest hsplit

/-- What is held fits or is overtaken, if it was so at the start and every operation that leaves it there
has found it there, and leaves it fitting only if it was. -/
theorem fits_or_overtaken (fits : Fronted ρ → Prop)
    (hstart : s.tiers.near.find? key = some bytes → fits s)
    (hstep : ∀ before op, before ++ [.operation op] <+: requests →
      (afterRequests cache (before ++ [.operation op]) s).tiers.near.find? key = some bytes →
        fits (afterRequests cache (before ++ [.operation op]) s) ∨
          (afterRequests cache before s).tiers.near.find? key = some bytes ∧
            (fits (afterRequests cache before s) →
              fits (afterRequests cache (before ++ [.operation op]) s)))
    (hheld : (afterRequests cache requests s).tiers.near.find? key = some bytes) :
    fits (afterRequests cache requests s) ∨ Overtaken cache key bytes fits requests s := by
  induction requests using List.reverseRecOn with
  | nil => exact Or.inl (hstart hheld)
  | append_singleton requests q ih =>
    have hrest := ih fun before op hinitial => hstep before op (hinitial.trans (List.prefix_append _ _))
    by_cases hnow : fits (afterRequests cache (requests ++ [q]) s)
    · exact Or.inl hnow
    · refine Or.inr ?_
      cases q with
      | transaction body =>
        have hbefore : (afterRequests cache requests s).tiers.near.find? key = some bytes := by
          rw [afterRequests_concat, answer_transaction] at hheld
          exact hheld
        rcases hrest hbefore with hfits | hovertaken
        · exact .of_transaction hfits hheld hnow
        · exact hovertaken.extend hheld hnow
      | operation op =>
        rcases hstep requests op (List.prefix_refl _) hheld with hfits | ⟨hbefore, hkeep⟩
        · exact absurd hfits hnow
        · rcases hrest hbefore with hfits | hovertaken
          · exact absurd (hkeep hfits) hnow
          · exact hovertaken.extend hheld hnow

end Overtaken

theorem traced_near {cache : Layered ρ} (halone : cache.remote = none) :
    cache.Traced (fun _ => True) True fun t key value => t.near.find? key = some value :=
  Layered.traced_alone halone

section Alone

variable {cache : Layered ρ} (halone : cache.remote = none) {s : Fronted ρ}

include halone

/-! ### Users -/

/-- An operation leaves a copy of a user only if it is right, or was there and is as right as before. -/
theorem user_copy_step (hsound : s.behind.store.table.Sound) {id : UserId} {bytes : ByteArray} {u : User}
    (hd : decodeUser? bytes = some u) (op : Operation)
    (hheld : ((fronted cache).run op s).2.tiers.near.find? (userKey id) = some bytes) :
    ((fronted cache).run op s).2.live id = some u ∨
      s.tiers.near.find? (userKey id) = some bytes ∧
        (s.live id = some u → ((fronted cache).run op s).2.live id = some u) := by
  rcases user_copy (traced_near halone).toTracked trivial hsound hd hheld with
    hlive | ⟨before, same⟩ | ⟨-, answer, -, same⟩
  · exact Or.inl hlive
  · rw [same trivial]
    exact Or.inr ⟨before, fun hlive => hlive⟩
  · rw [same]
    exact Or.inr ⟨(traced_near halone).of_answer trivial answer, fun hlive => hlive⟩

/-- A copy of a user that is held is the live user, or is overtaken. -/
theorem user_fits_or_overtaken {view : ρ → String → Option ByteArray} (hcold : Cold cache view s.tiers)
    (hsound : s.behind.store.table.Sound) (requests : List (Request α)) {id : UserId}
    {bytes : ByteArray} {u : User} (hd : decodeUser? bytes = some u)
    (hheld : (afterRequests cache requests s).tiers.near.find? (userKey id) = some bytes) :
    (afterRequests cache requests s).live id = some u ∨
      Overtaken cache (userKey id) bytes (fun s => s.live id = some u) requests s := by
  refine fits_or_overtaken (fun s => s.live id = some u) ?_ ?_ hheld
  · intro hstart
    rw [hcold.no_user (Or.inl hstart)] at hd
    cases hd
  · intro before op hinitial hafter
    have hknown := known_after (traced_near halone).toTracked ⟨trivial, hsound⟩ before
    rw [afterRequests_concat] at hafter ⊢
    exact user_copy_step halone hknown.2 hd op hafter

/-! ### Pages -/

/-- An operation leaves a copy of a page of the generation after it only if the copy is right, or was
there and is as right as before. -/
theorem page_copy_step (hsound : s.behind.store.table.Sound) {r : PageRequest} {bytes : ByteArray}
    {b : Bundle} (hd : decodeBundle? bytes = some b) (op : Operation) {g : Nat}
    (hlast : s.tiers.near.find? (pageKey g r) = some bytes → g ≤ s.generation.current)
    (hnext : op.changed ((base tableBacking).run op s.behind).1 = true → g = s.generation.current + 1)
    (hheld : ((fronted cache).run op s).2.tiers.near.find? (pageKey g r) = some bytes) :
    ((fronted cache).run op s).2.page r = b.page r ∨
      s.tiers.near.find? (pageKey g r) = some bytes ∧
        (s.page r = b.page r → ((fronted cache).run op s).2.page r = b.page r) := by
  have hsame : g ≤ s.generation.current → ((fronted cache).run op s).2.page r = s.page r := by
    intro hle
    cases hchanged : op.changed ((base tableBacking).run op s.behind).1 with
    | true =>
      have hgreater := hnext hchanged
      omega
    | false =>
      simp only [CachedState.page]
      rw [step_behind, base_unchanged hchanged]
  cases origin_step (traced_near halone).toTracked trivial hsound op hheld with
  | kept before same =>
    refine Or.inr ⟨before, fun hfits => ?_⟩
    rw [hsame (hlast before)]
    exact hfits
  | fetched answer lookup asked same =>
    have hbefore := (traced_near halone).of_answer trivial answer
    refine Or.inr ⟨hbefore, fun hfits => ?_⟩
    rw [hsame (hlast hbefore)]
    exact hfits
  | user v hkey hbytes live => exact absurd hkey.symm (userKey_ne_pageKey v.id g r)
  | page q hkey hbytes =>
    obtain ⟨hnumber, rfl⟩ := pageKey_inj.1 hkey
    refine Or.inl ?_
    rw [hbytes] at hd
    rw [hsame (Nat.le_of_eq hnumber), eq_of_decodeBundle? hd]
    rfl

end Alone

section Pages

variable {cache : Layered ρ} {w : World Repository} {t : Tiers ρ} {requests : List (Request α)}

/-- With fewer changes than generations, the generation is the number of changes so far. -/
theorem number_afterRequests (cache : Layered ρ) (t : Tiers ρ)
    (hfew : renewals (Program.answers (base tableBacking).answer requests w) ≤ wordMax)
    {before : List (Request α)} (hinitial : before <+: requests) :
    (afterRequests cache before ⟨w, .first, t⟩).generation.current =
        renewals (Program.answers (base tableBacking).answer before w) ∧
      renewals (Program.answers (base tableBacking).answer before w) ≤
        renewals (Program.answers (base tableBacking).answer requests w) := by
  obtain ⟨since, rfl⟩ := hinitial
  rw [renewals_append] at hfew ⊢
  refine ⟨?_, Nat.le_add_right _ _⟩
  have hcount := generation_after cache before (s := ⟨w, .first, t⟩) (Nat.zero_le _)
  rw [hcount]
  show wrapped (0 + _) = _
  rw [Nat.zero_add]
  exact wrapped_of_le (Nat.le_trans (Nat.le_add_right _ _) hfew)

variable (halone : cache.remote = none) {view : ρ → String → Option ByteArray}
  (hcold : Cold cache view t) (hsound : w.store.table.Sound)
  (hfew : renewals (Program.answers (base tableBacking).answer requests w) ≤ wordMax)

include halone hcold hsound hfew

/-- No page is held for a generation that is still to come. -/
theorem page_number_le {before : List (Request α)} (hinitial : before <+: requests) {g : Nat}
    {r : PageRequest} {bytes : ByteArray} {b : Bundle} (hd : decodeBundle? bytes = some b)
    (hheld : (afterRequests cache before ⟨w, .first, t⟩).tiers.near.find? (pageKey g r) =
      some bytes) :
    g ≤ renewals (Program.answers (base tableBacking).answer before w) := by
  have hbare : Bare (fun t key value => t.near.find? key = some value) t :=
    ⟨fun hh => hcold.no_page (Or.inl hh)⟩
  have hdated := (hbare.dated fun g _ _ =>
    g ≤ renewals (Program.answers (base tableBacking).answer before w)).after (traced_near halone)
      (s := ⟨w, .first, t⟩) ⟨trivial, hsound⟩ before (by
    intro first since hsplit r
    obtain ⟨hnumber, -⟩ := number_afterRequests cache t hfew
      (List.IsPrefix.trans ⟨since, hsplit.symm⟩ hinitial)
    rw [hnumber, hsplit, renewals_append]
    exact Nat.le_add_right _ _)
  exact hdated.taken hheld hd

/-- A copy of a page of the present generation is the page, or is overtaken. -/
theorem page_fits_or_overtaken {r : PageRequest} {bytes : ByteArray} {b : Bundle}
    (hd : decodeBundle? bytes = some b)
    (hheld : (afterRequests cache requests ⟨w, .first, t⟩).tiers.near.find?
      (pageKey (afterRequests cache requests ⟨w, .first, t⟩).generation.current r) = some bytes) :
    (afterRequests cache requests ⟨w, .first, t⟩).page r = b.page r ∨
      Overtaken cache (pageKey (afterRequests cache requests ⟨w, .first, t⟩).generation.current r)
        bytes (fun s => s.page r = b.page r) requests ⟨w, .first, t⟩ := by
  rw [(number_afterRequests cache t hfew (List.prefix_refl _)).1] at hheld ⊢
  refine fits_or_overtaken (fun s => s.page r = b.page r) ?_ ?_ hheld
  · intro hstart
    rw [hcold.no_page (Or.inl hstart)] at hd
    cases hd
  · intro before op hinitial hafter
    have hbefore : before <+: requests := (List.prefix_append _ _).trans hinitial
    have hnumber := number_afterRequests cache t hfew hbefore
    have hnumber' := number_afterRequests cache t hfew hinitial
    have hle := page_number_le halone hcold hsound hfew hinitial hd hafter
    have hknown := known_after (traced_near halone).toTracked (s := ⟨w, .first, t⟩) ⟨trivial, hsound⟩
      before
    rw [afterRequests_concat] at hafter hnumber' ⊢
    refine page_copy_step halone (s := afterRequests cache before ⟨w, .first, t⟩) hknown.2 hd op
      ?_ ?_ hafter
    · intro hheld'
      rw [hnumber.1]
      exact page_number_le halone hcold hsound hfew hbefore hd hheld'
    · intro hchanged
      have hbump := (step_generation cache op (afterRequests cache before ⟨w, .first, t⟩)).trans
        (if_pos hchanged)
      have hgrows := renewals_append before [.operation op] w
      have hcurrent := hnumber'.1
      change ((fronted cache).run op (afterRequests cache before ⟨w, .first, t⟩)).2.generation.current
        = _ at hcurrent
      rw [hbump] at hcurrent
      simp only [Generation.bump, wrapped] at hcurrent
      simp only [wordMax] at hfew
      omega

end Pages

/-! ### Answers -/

section Answers

variable {cache : Layered ρ} (halone : cache.remote = none) {s : Fronted ρ}

include halone

/-- Without a remote tier, a user is read wrongly if the local tier holds a copy that is not the live
user, and this copy is the answer. -/
theorem get_wrong_iff {id : UserId} : ((fronted cache).run (.get id) s).1 ≠
      ((base tableBacking).run (.get id) s.behind).1 ↔
    ∃ bytes u, decodeUser? bytes = some u ∧ ((fronted cache).run (.get id) s).1 = .ok u ∧
      s.tiers.near.find? (userKey id) = some bytes ∧ s.live id ≠ some u := by
  rw [Ne, get_right_iff, Layered.get_fst_alone halone]
  constructor
  · intro hwrong
    obtain ⟨u, hu⟩ := Classical.not_forall.1 hwrong
    obtain ⟨hfound, hne⟩ := Classical.not_imp.1 hu
    obtain ⟨bytes, hheld, hd⟩ := Option.bind_eq_some_iff.1 hfound
    refine ⟨bytes, u, hd, ?_, hheld, hne⟩
    rw [cached_get, Layered.get_fst_alone halone, hfound]
  · rintro ⟨bytes, u, hd, -, hheld, hne⟩ hright
    refine hne (hright u ?_)
    rw [hheld, Option.bind_some, hd]

/-- Without a remote tier, a page is read wrongly if the local tier holds a copy for the present
generation that is not the page, and this copy is the answer. -/
theorem list_wrong_iff {r : PageRequest} : ((fronted cache).run (.list r) s).1 ≠
      ((base tableBacking).run (.list r) s.behind).1 ↔
    ∃ bytes b, decodeBundle? bytes = some b ∧ ((fronted cache).run (.list r) s).1 = .ok (b.page r) ∧
      s.tiers.near.find? (pageKey s.generation.current r) = some bytes ∧ s.page r ≠ b.page r := by
  rw [cached_list, base_list, Layered.get_fst_alone halone]
  cases hfound : (s.tiers.near.find? (pageKey s.generation.current r)).bind fun bytes =>
      (decodeBundle? bytes).map (·.page r) with
  | none =>
    constructor
    · intro hwrong
      exact absurd rfl hwrong
    · rintro ⟨bytes, b, hd, -, hheld, -⟩
      rw [hheld, Option.bind_some, hd] at hfound
      cases hfound
  | some p =>
    obtain ⟨bytes, hheld, hd⟩ := Option.bind_eq_some_iff.1 hfound
    obtain ⟨b, hb, rfl⟩ := Option.map_eq_some_iff.1 hd
    constructor
    · intro hwrong
      refine ⟨bytes, b, hb, rfl, hheld, fun heq => hwrong ?_⟩
      rw [← heq]
      rfl
    · rintro ⟨-, c, -, hc, -, hne⟩ hright
      refine hne ?_
      rw [← Except.ok.inj hc]
      exact (Except.ok.inj hright).symm

end Answers

/-- Without a remote tier, whatever operations and transactions are mixed, a user is read wrongly if and
only if the local tier has held a copy since before a transaction that changed the user, and the copy is
the answer. In a run with fewer changes by operations than there are generations, the same is true of
pages and the copies of the present generation. -/
theorem misread_iff_overtaken {cache : Layered ρ} (halone : cache.remote = none)
    {w : World Repository} (hsound : w.store.table.Sound) {t : Tiers ρ}
    (hcold : Cold cache (fun _ _ => none) t) (requests : List (Request α)) :
    (∀ id, ((fronted cache).run (.get id) (afterRequests cache requests ⟨w, .first, t⟩)).1 ≠
          ((base tableBacking).run (.get id)
            (Program.after (base tableBacking).answer requests w)).1 ↔
        ∃ bytes u, decodeUser? bytes = some u ∧
          ((fronted cache).run (.get id) (afterRequests cache requests ⟨w, .first, t⟩)).1 = .ok u ∧
          Overtaken cache (userKey id) bytes (fun s => s.live id = some u) requests
            ⟨w, .first, t⟩) ∧
      (renewals (Program.answers (base tableBacking).answer requests w) ≤ wordMax →
        ∀ r, ((fronted cache).run (.list r) (afterRequests cache requests ⟨w, .first, t⟩)).1 ≠
            ((base tableBacking).run (.list r)
              (Program.after (base tableBacking).answer requests w)).1 ↔
          ∃ bytes b, decodeBundle? bytes = some b ∧
            ((fronted cache).run (.list r) (afterRequests cache requests ⟨w, .first, t⟩)).1 =
              .ok (b.page r) ∧
            Overtaken cache
              (pageKey (afterRequests cache requests ⟨w, .first, t⟩).generation.current r) bytes
              (fun s => s.page r = b.page r) requests ⟨w, .first, t⟩) := by
  have hbehind := behind_after cache requests ⟨w, .first, t⟩
  refine ⟨fun id => ?_, fun hfew r => ?_⟩
  · rw [← hbehind, get_wrong_iff halone]
    constructor
    · rintro ⟨bytes, u, hd, hanswer, hheld, hne⟩
      refine ⟨bytes, u, hd, hanswer, ?_⟩
      exact (user_fits_or_overtaken halone hcold hsound requests hd hheld).resolve_left hne
    · rintro ⟨bytes, u, hd, hanswer, hovertaken⟩
      exact ⟨bytes, u, hd, hanswer, hovertaken.now.1, hovertaken.now.2⟩
  · rw [← hbehind, list_wrong_iff halone]
    constructor
    · rintro ⟨bytes, b, hd, hanswer, hheld, hne⟩
      refine ⟨bytes, b, hd, hanswer, ?_⟩
      exact (page_fits_or_overtaken halone hcold hsound hfew hd hheld).resolve_left hne
    · rintro ⟨bytes, b, hd, hanswer, hovertaken⟩
      exact ⟨bytes, b, hd, hanswer, hovertaken.now.1, hovertaken.now.2⟩

/-! ### A user who is deleted in a transaction -/

/-- The only user of the trial. -/
def onlyId : UserId := .inSeries 0

/-- Deletes the user in a transaction. -/
def trialDeletion : Closure Unit :=
  .act (.staged .deletionMoment) fun now =>
    .act (.staged (.call (.delete onlyId now))) fun _ => .done ((), .ok ())

/-- Creates the user. -/
def trialStart : Request Unit := .operation (.create ⟨"Jane", "jane@x.com"⟩)

/-- The user is created and then deleted in a transaction. -/
def trialRequests : List (Request Unit) := [trialStart, .transaction trialDeletion]

/-- The cache of the trial, a local tier alone. -/
def trialCache : Layered Unit := .alone ⟨0⟩ ⟨0⟩

/-- The state in which the trial starts. -/
def trialFront : Fronted Unit :=
  ⟨⟨.empty, .still⟩, .first, Layered.start (.ofSizing ⟨1000000, 1000, 1⟩) ()⟩

theorem trial_misread :
    ((fronted trialCache).run (.get onlyId)
        (afterRequests trialCache trialRequests trialFront)).1 ≠
      ((base tableBacking).run (.get onlyId)
        (Program.after (base tableBacking).answer trialRequests trialFront.behind)).1 := by
  decide +kernel

theorem misread_iff_overtaken_in_trial :
    ∃ bytes u, decodeUser? bytes = some u ∧
      ((fronted trialCache).run (.get onlyId)
        (afterRequests trialCache trialRequests trialFront)).1 = .ok u ∧
      Overtaken trialCache (userKey onlyId) bytes (fun s => s.live onlyId = some u) trialRequests
        trialFront :=
  ((misread_iff_overtaken rfl Table.sound_nil (Cold.of_empty rfl fun _ => rfl) trialRequests).1
    onlyId).1 trial_misread

/-- The transaction succeeds, and the service alone knows nobody after it. The deleted user is read all
the same. -/
theorem deleted_user_outlives_transaction :
    ((base tableBacking).transact trialDeletion
        ((base tableBacking).answer trialStart ⟨.empty, .still⟩).2).1 = (some (), .ok ()) ∧
      ((base tableBacking).run (.get onlyId) (Program.after (base tableBacking).answer
        trialRequests ⟨.empty, .still⟩)).1 = .error (.noUser onlyId) ∧
      ((fronted trialCache).run (.get onlyId)
          (afterRequests trialCache trialRequests trialFront)).1 ≠
        .error (.noUser onlyId) := by
  have hgone : ((base tableBacking).run (.get onlyId) (Program.after (base tableBacking).answer
      trialRequests ⟨.empty, .still⟩)).1 = .error (.noUser onlyId) := by
    decide +kernel
  refine ⟨by decide +kernel, hgone, ?_⟩
  rw [← hgone]
  exact trial_misread

end Roster.Service
