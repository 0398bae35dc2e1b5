import Roster.Proofs.Service.Dated
import Roster.Proofs.Service.SideBySide

/-!
# Listings among concurrent requests

A listing takes the number of the generation, looks for a page of this generation, and asks the service
behind only then. Whatever others do meanwhile, a page that is cached for a generation was given by the
service behind after that generation had begun, and a change begins a generation after it was made. So a
listing that comes once a change has been answered is answered with a page that shows the change.

* `ListedIn` is a page that the service behind gave for a generation, and `recalled_listed` says that
  the cache holds no others.
* `changed_before_generation` says that a change begins a generation after it was made.
* `listing_shows_change` is about listings that come after a change has been answered.
-/

namespace Roster.Service

open Roster.Cache Roster.Number Roster.Store

variable {ρ : Type}

/-! ### Generations -/

/-- Whether a step begins a generation. -/
def CachedAct.begins : CachedAct → Bool
  | .bump => true
  | _ => false

/-- How many generations the steps of a log have begun. -/
def begun (log : List CachedStep) : Nat := log.countP fun step => step.action.begins

theorem begun_mono {log later : List CachedStep} (h : log <+: later) : begun log ≤ begun later :=
  h.sublist.countP_le

section Log

variable (cache : Layered ρ) (s : Fronted ρ)

/-- Generations are counted on by the steps that begin one. -/
theorem generation_reached (log : List CachedStep) :
    wrapped (frontedAt cache s log).generation.current =
      wrapped (s.generation.current + begun log) := by
  induction log using List.reverseRecOn with
  | nil => rfl
  | append_singleton log step ih =>
    have hcount : begun (log ++ [step]) = begun log + if step.action.begins then 1 else 0 := by
      simp only [begun]
      rw [List.countP_append, List.countP_singleton]
    simp only [frontedAt] at ih ⊢
    rw [Program.reached_snoc, hcount]
    cases hx : step.action with
    | base op => exact ih
    | generation => exact ih
    | tier c => exact ih
    | bump =>
      show wrapped (wrapped (_ + 1)) = wrapped (s.generation.current + (begun log + 1))
      simp only [wrapped] at ih ⊢
      omega

/-- Two moments with one generation have begun equally many, if there are not too many. -/
theorem begun_eq_of_generation {first later : List CachedStep}
    (hsame : (frontedAt cache s first).generation.current =
      (frontedAt cache s later).generation.current)
    (hfirst : begun first ≤ wordMax) (hlater : begun later ≤ wordMax) :
    begun first = begun later := by
  have hwrapped := congrArg wrapped hsame
  rw [generation_reached, generation_reached] at hwrapped
  simp only [wrapped, wordMax] at hwrapped hfirst hlater
  omega

/-! ### Pages -/

/-- After some steps of the log the service behind gave the page, and the generation was this one then
or before. -/
def ListedIn (log : List CachedStep) (g : Nat) (r : PageRequest) (p : Page User) : Prop :=
  ∃ first early who, first <+: early ∧
    early ++ [⟨who, .base (.list r), .ok p⟩] <+: log ∧
    (frontedAt cache s first).generation.current = g ∧ p = (frontedAt cache s early).page r

/-- Every page that is set under a key was given for the generation in the key. -/
def PagesFit (log : List CachedStep) (_ : Nat) (key : String) (bytes : ByteArray) : Prop :=
  ∀ g r b, key = pageKey g r → decodeBundle? bytes = some b → ListedIn cache s log g r (b.page r)

variable {cache s} {may : ρ → Prop} {sent : ρ → String → ByteArray → Prop}

theorem ListedIn.extend {log later : List CachedStep} {g : Nat} {r : PageRequest} {p : Page User}
    (h : ListedIn cache s log g r p) (hlater : log <+: later) : ListedIn cache s later g r p := by
  obtain ⟨first, early, who, hfirst, hearly, hsame⟩ := h
  exact ⟨first, early, who, hfirst, hearly.trans hlater, hsame⟩

/-- The service behind is asked for a page. -/
theorem listedIn_of_asked {first early log : List CachedStep} {who : Nat} {r : PageRequest}
    (hfirst : first <+: early)
    (hasked : early ++ [Program.stepOf (cachedHandle (base tableBacking) cache) s early who
      (.base (.list r))] <+: log) :
    ListedIn cache s log (frontedAt cache s first).generation.current r
      ((frontedAt cache s early).page r) :=
  ⟨first, early, who, hfirst, hasked, rfl, rfl⟩

variable (h : cache.Recalls may sent) (hfar : may s.tiers.far) (hbare : Bare (cache.Known sent) s.tiers)

include h hfar hbare

/-- If only pages that fit are set, the cache comes to hold no others. -/
theorem recalled_listed {log : List CachedStep}
    (hlawful : Program.Lawful (cachedHandle (base tableBacking) cache) s
      (SetsFit (PagesFit cache s)) log) {key : String} {bytes : ByteArray}
    (hknown : cache.Known sent (frontedAt cache s log).tiers key bytes) (who : Nat) :
    PagesFit cache s log who key bytes := by
  intro g r b hkey hb
  rcases (known_reached h hfar log).2 hknown with hstart | ⟨early, step, hprefix, hset⟩
  · rw [hkey] at hstart
    rw [hbare.no_page hstart] at hb
    cases hb
  · have hfits := (hlawful early step hprefix).2 key bytes hset g r b hkey hb
    exact hfits.extend ((List.prefix_append _ _).trans hprefix)

/-- What operations set is either a user or a page that fits. -/
theorem pages_fitting :
    Fitting (base tableBacking) cache s sent (PagesFit cache s) where
  mono hlater hfits g r b hkey hb := (hfits g r b hkey hb).extend hlater
  copied who hlawful _ hknown := recalled_listed h hfar hbare hlawful hknown who
  user {log who op u} _ g r b hkey _ := absurd hkey (userKey_ne_pageKey u.id g r)
  page {first log who r p} hfirst hp g q b hkey hb := by
    obtain ⟨rfl, rfl⟩ := pageKey_inj.1 hkey
    have hpage : p = (frontedAt cache s log).page r := (Except.ok.inj hp).symm
    rw [eq_of_decodeBundle? hb, hpage]
    exact listedIn_of_asked hfirst (List.prefix_refl _)

omit h hfar hbare

/-! ### Changes -/

/-- A change is made before its generation begins, and answered after. -/
theorem changed_before_generation {op : Operation} {who : Nat} {came final : List CachedStep}
    {reply : op.Reply} (hasked : Asked (base tableBacking) cache s op who came final reply)
    (hchanged : op.changed reply = true) :
    ∃ early, early ++ [⟨who, .base op, reply⟩] <+: final ∧ begun early < begun final := by
  obtain ⟨early, -, hreply, htakes⟩ := hasked
  have hbump : CachedAct.bump ∈ op.aftermath reply := by
    cases op with
    | create r => cases reply with | error e => cases hchanged | ok u => simp [Operation.aftermath]
    | get id => cases hchanged
    | update id r => cases reply with | error e => cases hchanged | ok u => simp [Operation.aftermath]
    | delete id => cases reply with | error e => cases hchanged | ok u => simp [Operation.aftermath]
    | list r => cases hchanged
  have hstep : Program.stepOf (cachedHandle (base tableBacking) cache) s early who (.base op) =
      ⟨who, .base op, reply⟩ := by
    rw [hreply]
    rfl
  obtain ⟨bumped, hbumped, hfinal⟩ := htakes.of_mem hbump
  rw [hstep] at htakes hbumped
  refine ⟨early, htakes.prefix, ?_⟩
  have hbefore : begun early ≤ begun bumped :=
    begun_mono ((List.prefix_append _ _).trans hbumped)
  have hbegin : begun bumped + 1 ≤ begun final := by
    have hle := begun_mono hfinal
    simp only [begun] at hle ⊢
    rw [List.countP_append, List.countP_singleton] at hle
    exact hle
  omega

/-- Of two parts of one log the step is in the one that has begun more generations. -/
theorem step_of_begun_lt {early first log : List CachedStep} {step : CachedStep}
    (hstep : early ++ [step] <+: log) (hfirst : first <+: log) (hlt : begun early < begun first) :
    early ++ [step] <+: first := by
  rcases List.prefix_or_prefix_of_prefix hstep hfirst with hbefore | hafter
  · exact hbefore
  · rcases List.prefix_concat_iff.1 hafter with heq | hprefix
    · exact heq ▸ List.prefix_refl _
    · have hle := begun_mono hprefix
      omega

end Log

/-! ### Listings -/

section Listings

variable {cache : Layered ρ} {may : ρ → Prop} {sent : ρ → String → ByteArray → Prop}
  (h : cache.Recalls may sent) {s : Fronted ρ} (hfar : may s.tiers.far)
  (hbare : Bare (cache.Known sent) s.tiers)

include h hfar hbare

/-- A listing is answered with a page that the service behind gave at some moment, and the generation
that it asked for had begun by then. -/
theorem listing_course {who : Nat} {came final : List CachedStep} {r : PageRequest}
    {reply : (Operation.list r).Reply}
    (hlawful : Program.Lawful (cachedHandle (base tableBacking) cache) s
      (SetsFit (PagesFit cache s)) final)
    (hcourse : Course (base tableBacking) cache s sent (.list r) who came final reply) :
    ∃ asked p, came <+: asked ∧ asked <+: final ∧ reply = .ok p ∧
      ListedIn cache s final (frontedAt cache s asked).generation.current r p := by
  obtain ⟨asked, hcame, hcase⟩ := hcourse
  rcases hcase with ⟨bytes, b, ⟨read, hread, hfinal, hknown⟩, hb, rfl⟩ | ⟨early, hearly, hreply, htakes⟩
  · have hfits := recalled_listed h hfar hbare (hlawful.of_prefix hfinal) hknown who
    refine ⟨asked, b.page r, hcame, hread.trans hfinal, rfl, ?_⟩
    exact (hfits _ r b rfl hb).extend hfinal
  · have hstep := htakes.prefix
    refine ⟨asked, (frontedAt cache s early).page r, hcame, ?_, hreply, ?_⟩
    · exact hearly.trans ((List.prefix_append _ _).trans hstep)
    · exact listedIn_of_asked hearly hstep

/-- However the steps of requests are interleaved, and whatever a remote tier does that makes nothing
up: a listing that comes once a change has been answered is answered, as soon as it has had nine turns,
with a page that the service behind gave at some moment. The change had been made by then, unless there
have been more generations than there are numbers for them. -/
theorem listing_shows_change {before : List (Move Operation)} (since : List (Move Operation)) {m : Nat}
    {op : Operation} {reply : op.Reply}
    (hdone : (sideBySide (base tableBacking) cache before s).answer? m = some ⟨op, reply⟩)
    (hchanged : op.changed reply = true) (r : PageRequest) :
    (9 ≤ since.countP
        (Move.isTurn (sideBySide (base tableBacking) cache before s).errands.length) →
      ((sideBySide (base tableBacking) cache (before ++ .come (.list r) :: since) s).answer?
        (sideBySide (base tableBacking) cache before s).errands.length).isSome = true) ∧
    ∀ a, (sideBySide (base tableBacking) cache (before ++ .come (.list r) :: since) s).answer?
        (sideBySide (base tableBacking) cache before s).errands.length = some a →
      ∃ early who p, a = ⟨.list r, .ok p⟩ ∧
        early ++ [⟨who, .base (.list r), .ok p⟩] <+:
          (sideBySide (base tableBacking) cache (before ++ .come (.list r) :: since) s).log ∧
        p = (frontedAt cache s early).page r ∧
        (begun (sideBySide (base tableBacking) cache (before ++ .come (.list r) :: since) s).log ≤
          wordMax → ∃ first, first ++ [⟨m, .base op, reply⟩] <+: early) := by
  have hfit := pages_fitting h hfar hbare
  have hbefore := sideBySide_orderly h hfar hfit before
  have horderly := sideBySide_orderly h hfar hfit (before ++ .come (.list r) :: since)
  have hlog := (errands_sideBySide (base tableBacking) cache s before since (.list r)).1
  refine ⟨fun hturns => ?_, fun a ha => ?_⟩
  · obtain ⟨answer, hanswer⟩ := answered_sideBySide (base tableBacking) cache s before (.list r) hturns
    rw [hanswer]
    rfl
  · obtain ⟨answer, rfl, hcourse⟩ := course_of_answer horderly ha
    obtain ⟨asked, p, hcame, hasked, rfl, first, early, who, hfirst, hearly, hsame, hpage⟩ :=
      listing_course h hfar hbare horderly.lawful hcourse
    refine ⟨early, who, p, rfl, hearly, hpage, fun hfew => ?_⟩
    -- The change was made before its generation began, and that was before the listing came.
    obtain ⟨came, -, -, hchange⟩ := hbefore.post_of_answer hdone
    obtain ⟨made, hmade, hbegan⟩ :=
      changed_before_generation (asked_of_changed hchange hchanged) hchanged
    have hfirst' := hfirst.trans ((List.prefix_append _ _).trans hearly)
    have hequal := begun_eq_of_generation cache s hsame
      (Nat.le_trans (begun_mono hfirst') hfew) (Nat.le_trans (begun_mono hasked) hfew)
    have hlate : begun made < begun first := by
      have hle := begun_mono hcame
      omega
    exact ⟨made, (step_of_begun_lt (hmade.trans hlog) hfirst' hlate).trans hfirst⟩

end Listings

/-- Fates for a trial: the page that a listing caches arrives late. -/
def trialDelays : Nat → Fate
  | 2 => .late (some 1)
  | _ => .works

/-- A cache for the trial. -/
def trialTier : Layered Wayward := Wayward.layered ⟨14⟩ ⟨14⟩

/-- The state that the trial starts from. -/
def trialMeeting : Fronted Wayward :=
  ⟨⟨.empty, .still⟩, .first, Layered.start (.ofSizing ⟨1400, 14, 1⟩) (.ofFates trialDelays)⟩

/-- The moves of the trial: a listing reads the page of the empty directory, and a creation is answered
before that page is cached. -/
def trialOvertaking : List (Move Operation) :=
  .come (.list .first) :: List.replicate 5 (.turn 0) ++
    .come (.create ⟨"Jill", "jill@x.com"⟩) :: List.replicate 4 (.turn 1) ++
    List.replicate 3 (.turn 0)

theorem listing_shows_change_in_trial :
    ∃ (op : Operation) (reply : op.Reply) (early first : List CachedStep) (who : Nat) (p : Page User),
      (sideBySide (base tableBacking) trialTier trialOvertaking trialMeeting).answer? 1 =
          some ⟨op, reply⟩ ∧
        (sideBySide (base tableBacking) trialTier
          (trialOvertaking ++ .come (.list .first) :: List.replicate 9 (.turn 2)) trialMeeting).answer? 2 =
            some ⟨.list .first, .ok p⟩ ∧
        early ++ [⟨who, .base (.list .first), .ok p⟩] <+: (sideBySide (base tableBacking) trialTier
          (trialOvertaking ++ .come (.list .first) :: List.replicate 9 (.turn 2)) trialMeeting).log ∧
        p = (frontedAt trialTier trialMeeting early).page .first ∧
        first ++ [⟨1, .base op, reply⟩] <+: early := by
  have hrecalls : trialTier.Recalls (fun _ => True) Wayward.sent := Wayward.layered_recalls ⟨14⟩ ⟨14⟩
  have hbare : Bare (trialTier.Known Wayward.sent) trialMeeting.tiers := by
    refine ⟨fun hknown => ?_⟩
    exact absurd hknown (Layered.not_known_start rfl (Wayward.not_sent_ofFates trialDelays) _ _)
  have hchange : ((sideBySide (base tableBacking) trialTier trialOvertaking trialMeeting).answer? 1).any
      (fun a => a.1.changed a.2) = true := by decide +kernel
  obtain ⟨⟨op, reply⟩, hdone, hchanged⟩ := Option.any_eq_true _ _ |>.1 hchange
  have hnumber : (sideBySide (base tableBacking) trialTier trialOvertaking
      trialMeeting).errands.length = 2 := by decide +kernel
  have hturns : 9 ≤ (List.replicate 9 (.turn 2 : Move Operation)).countP (Move.isTurn 2) := by decide
  obtain ⟨hanswered, hshows⟩ := listing_shows_change hrecalls trivial hbare
    (List.replicate 9 (.turn 2)) hdone hchanged .first
  rw [hnumber] at hanswered hshows
  obtain ⟨a, ha⟩ := Option.isSome_iff_exists.1 (hanswered hturns)
  obtain ⟨early, who, p, rfl, hlog, hpage, hshown⟩ := hshows a ha
  obtain ⟨first, hfirst⟩ := hshown (by decide +kernel)
  exact ⟨op, reply, early, first, who, p, hdone, ha, hlog, hpage, hfirst⟩

end Roster.Service
