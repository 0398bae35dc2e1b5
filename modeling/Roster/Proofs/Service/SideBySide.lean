import Mathlib.Data.List.Induction
import Roster.Proofs.Cache.Recalled
import Roster.Proofs.Interleaving
import Roster.Proofs.Service.Origins

/-!
# Requests to a service with a cache side by side

Calls on the service behind, on the generation and on the tiers of the cache are steps that those of
other requests come between. What the steps of all requests have in common is what they may set in the
cache.

* `known_reached` says that after any steps at all the cache holds what it held at first and what was
  set by one of them, and nothing else.
* `SetsFit` is the rule that only what fits is set. `Fitting` is what has to fit so that every operation
  keeps to it (`operate_obeys`), and `Course` what an operation has done once it is answered.
* `operate_within` and `operate_asks_once` say how many steps an operation takes at most.
* `sideBySide` are requests of any number that come and take their steps in any order.
-/

namespace Roster.Service

open Roster.Cache

variable {α σ ρ : Type}

/-- A step of a request to a service with a cache. -/
abbrev CachedStep := Step CachedAct CachedAct.Reply

/-! ### What is set in the cache -/

/-- The key and the value that a step sets in one of the tiers. -/
def CachedAct.sets? : CachedAct → Option (String × ByteArray)
  | .tier (.localSet key value) => some (key, value)
  | .tier (.remoteSet key value) => some (key, value)
  | _ => none

section Known

variable {behind : UserService σ} {cache : Layered ρ} {may : ρ → Prop}
  {sent : ρ → String → ByteArray → Prop} (h : cache.Recalls may sent)

include h

/-- A call on the tiers brings nothing into them but what it sets. -/
theorem known_call {t : Tiers ρ} (hfar : may t.far) (c : TierCall) :
    may (cache.handle c t).2.far ∧ ∀ {key value}, cache.Known sent (cache.handle c t).2 key value →
      (CachedAct.tier c).sets? = some (key, value) ∨ cache.Known sent t key value := by
  cases c with
  | localGet key =>
    refine ⟨hfar, fun hv => Or.inr ?_⟩
    exact hv.imp Local.find?_get id
  | localSet key value =>
    refine ⟨hfar, fun {other found} hv => ?_⟩
    rcases hv with hnear | hsent
    · have hset := Local.find?_set hnear
      by_cases hk : key = other
      · rw [if_pos hk] at hset
        rw [hk, hset]
        exact Or.inl rfl
      · rw [if_neg hk] at hset
        exact Or.inr (Or.inl hset)
    · exact Or.inr (Or.inr hsent)
  | localDelete key =>
    refine ⟨hfar, fun hv => Or.inr ?_⟩
    exact hv.imp (fun hnear => (Local.find?_delete hnear).2) id
  | remoteGet key =>
    cases hremote : cache.remote with
    | none =>
      simp only [Layered.handle]
      rw [hremote]
      exact ⟨hfar, Or.inr⟩
    | some r =>
      rw [Layered.handle_remoteGet hremote]
      obtain ⟨hmay, hsent⟩ := (h r hremote).get_sent key hfar
      exact ⟨hmay, fun hv => Or.inr (hv.imp id fun hv => ⟨hv.1, hsent hv.2⟩)⟩
  | remoteSet key value =>
    cases hremote : cache.remote with
    | none =>
      simp only [Layered.handle]
      rw [hremote]
      exact ⟨hfar, Or.inr⟩
    | some r =>
      rw [Layered.handle_remoteSet hremote]
      obtain ⟨hmay, hsent⟩ := (h r hremote).set_sent key value cache.ttl hfar
      refine ⟨hmay, fun hv => ?_⟩
      rcases hv with hnear | ⟨hhas, hv⟩
      · exact Or.inr (Or.inl hnear)
      · rcases hsent hv with ⟨rfl, rfl⟩ | hbefore
        · exact Or.inl rfl
        · exact Or.inr (Or.inr ⟨hhas, hbefore⟩)
  | remoteDelete key =>
    cases hremote : cache.remote with
    | none =>
      simp only [Layered.handle]
      rw [hremote]
      exact ⟨hfar, Or.inr⟩
    | some r =>
      rw [Layered.handle_remoteDelete hremote]
      obtain ⟨hmay, hsent⟩ := (h r hremote).delete_sent key hfar
      exact ⟨hmay, fun hv => Or.inr (hv.imp id fun hv => ⟨hv.1, hsent hv.2⟩)⟩
  | tally counter => exact ⟨hfar, Or.inr⟩

variable (behind) in
theorem known_step {s : CachedState σ ρ} (hfar : may s.tiers.far) (x : CachedAct) :
    may (cachedHandle behind cache x s).2.tiers.far ∧
      ∀ {key value}, cache.Known sent (cachedHandle behind cache x s).2.tiers key value →
        x.sets? = some (key, value) ∨ cache.Known sent s.tiers key value := by
  cases x with
  | base op => exact ⟨hfar, Or.inr⟩
  | generation => exact ⟨hfar, Or.inr⟩
  | bump => exact ⟨hfar, Or.inr⟩
  | tier c => exact known_call h hfar c

/-- After any steps the cache holds only what it held at first and what one of them has set. -/
theorem known_reached {s : CachedState σ ρ} (hfar : may s.tiers.far) (log : List CachedStep) :
    may (Program.reached (cachedHandle behind cache) s log).tiers.far ∧
      ∀ {key value},
        cache.Known sent (Program.reached (cachedHandle behind cache) s log).tiers key value →
          cache.Known sent s.tiers key value ∨
            ∃ early step, early ++ [step] <+: log ∧ step.action.sets? = some (key, value) := by
  induction log using List.reverseRecOn with
  | nil => exact ⟨hfar, Or.inl⟩
  | append_singleton log step ih =>
    obtain ⟨hmay, hknown⟩ := ih
    rw [Program.reached_snoc]
    obtain ⟨hmay', hknown'⟩ := known_step behind h hmay step.action
    refine ⟨hmay', fun hv => ?_⟩
    rcases hknown' hv with hset | hbefore
    · exact Or.inr ⟨log, step, List.prefix_refl _, hset⟩
    · rcases hknown hbefore with hstart | ⟨early, earlier, hprefix, hset⟩
      · exact Or.inl hstart
      · exact Or.inr ⟨early, earlier, hprefix.trans (List.prefix_append _ _), hset⟩

/-- A call answers a lookup with nothing else. -/
theorem known_of_answer {s : CachedState σ ρ} (hfar : may s.tiers.far) {key : String}
    {value : ByteArray}
    (hanswer : (cachedHandle behind cache (.tier (.remoteGet key)) s).1 = .ok value) :
    cache.hasRemote = true ∧ cache.Known sent s.tiers key value := by
  simp only [cachedHandle] at hanswer
  cases hremote : cache.remote with
  | none =>
    simp only [Layered.handle] at hanswer
    rw [hremote] at hanswer
    cases hanswer
  | some r =>
    rw [Layered.handle_remoteGet hremote] at hanswer
    have hhas : cache.hasRemote = true := by
      simp only [Layered.hasRemote]
      rw [hremote, Option.isSome_some]
    exact ⟨hhas, Or.inr ⟨hhas, (h r hremote).get_ok hfar hanswer⟩⟩

end Known

/-! ### What may be set -/

/-- The rule that a request sets only what fits. -/
def SetsFit (fit : List CachedStep → Nat → String → ByteArray → Prop) :
    Program.Rule CachedAct CachedAct.Reply :=
  fun log who x => ∀ key value, x.sets? = some (key, value) → fit log who key value

/-- The user whom an operation was answered with. -/
def Operation.user? : (op : Operation) → op.Reply → Option User
  | .create _, .ok u => some u
  | .get _, .ok u => some u
  | .update .., .ok u => some u
  | _, _ => none

/-- What has to fit if requests are to set nothing else. A page is set under the generation that was
present before the service behind was asked for it. -/
structure Fitting (behind : UserService σ) (cache : Layered ρ) (s : CachedState σ ρ)
    (sent : ρ → String → ByteArray → Prop)
    (fit : List CachedStep → Nat → String → ByteArray → Prop) : Prop where
  mono {log later : List CachedStep} {who : Nat} {key : String} {value : ByteArray} :
    log <+: later → fit log who key value → fit later who key value
  copied {log : List CachedStep} {key : String} {value : ByteArray} (who : Nat) :
    Program.Lawful (cachedHandle behind cache) s (SetsFit fit) log → cache.hasRemote = true →
    cache.Known sent (Program.reached (cachedHandle behind cache) s log).tiers key value →
    fit log who key value
  user {log : List CachedStep} {who : Nat} {op : Operation} {u : User} :
    op.user? (cachedHandle behind cache (.base op)
      (Program.reached (cachedHandle behind cache) s log)).1 = some u →
    fit (log ++ [Program.stepOf (cachedHandle behind cache) s log who (.base op)]) who
      (userKey u.id) (encodeUser u)
  page {first log : List CachedStep} {who : Nat} {r : PageRequest} {p : Page User} :
    first <+: log →
    (cachedHandle behind cache (.base (.list r))
      (Program.reached (cachedHandle behind cache) s log)).1 = .ok p →
    fit (log ++ [Program.stepOf (cachedHandle behind cache) s log who (.base (.list r))]) who
      (pageKey (Program.reached (cachedHandle behind cache) s first).generation.current r)
      (encodeBundle (.ofPage p))

/-- The user whom an operation was answered with fits from then on. -/
theorem Fitting.user_from {behind : UserService σ} {cache : Layered ρ} {s : CachedState σ ρ}
    {sent : ρ → String → ByteArray → Prop} {fit : List CachedStep → Nat → String → ByteArray → Prop}
    (hfit : Fitting behind cache s sent fit) {early asked : List CachedStep} {who : Nat}
    {op : Operation} {reply : op.Reply} {u : User} (huser : op.user? reply = some u)
    (hreply : reply = (cachedHandle behind cache (.base op)
      (Program.reached (cachedHandle behind cache) s early)).1)
    (hasked : early ++ [Program.stepOf (cachedHandle behind cache) s early who (.base op)] <+: asked) :
    ∀ later, asked <+: later → fit later who (userKey u.id) (encodeUser u) := by
  intro later hlater
  refine hfit.mono (hasked.trans hlater) (hfit.user ?_)
  rw [← hreply]
  exact huser

/-! ### What an operation has done -/

section Course

variable (behind : UserService σ) (cache : Layered ρ) (s : CachedState σ ρ)
  (sent : ρ → String → ByteArray → Prop)

/-- The main steps of an operation once the service behind has changed the directory. -/
def Operation.aftermath : (op : Operation) → op.Reply → List CachedAct
  | .create _, .ok u => [.bump, .tier (.localSet (userKey u.id) (encodeUser u))]
  | .update id _, .ok u =>
    [.tier (.localDelete (userKey id)), .bump,
      .tier (.localSet (userKey u.id) (encodeUser u))]
  | .delete id, .ok () => [.tier (.localDelete (userKey id)), .bump]
  | _, _ => []

/-- The service behind was asked, it gave the answer, and what follows a change was done. -/
def Asked (op : Operation) (who : Nat) (came final : List CachedStep) (reply : op.Reply) : Prop :=
  ∃ early, came <+: early ∧
    reply = (cachedHandle behind cache (.base op)
      (Program.reached (cachedHandle behind cache) s early)).1 ∧
    Program.Takes (cachedHandle behind cache) s who (op.aftermath reply)
      (early ++ [Program.stepOf (cachedHandle behind cache) s early who (.base op)]) final

/-- The cache was known to hold bytes under a key. -/
def Recalled (key : String) (came final : List CachedStep) (bytes : ByteArray) : Prop :=
  ∃ early, came <+: early ∧ early <+: final ∧
    cache.Known sent (Program.reached (cachedHandle behind cache) s early).tiers key bytes

/-- What a request has done between the log to which it came and the one at which it was answered. -/
def Course : (op : Operation) → Nat → List CachedStep → List CachedStep → op.Reply → Prop
  | .get id, who, came, final, reply =>
    (∃ bytes u, Recalled behind cache s sent (userKey id) came final bytes ∧
        decodeUser? bytes = some u ∧ reply = .ok u) ∨
      Asked behind cache s (.get id) who came final reply
  | .list r, who, came, final, reply =>
    ∃ first, came <+: first ∧
      ((∃ bytes b, Recalled behind cache s sent
            (pageKey (Program.reached (cachedHandle behind cache) s first).generation.current r)
            first final bytes ∧
          decodeBundle? bytes = some b ∧ reply = .ok (b.page r)) ∨
        Asked behind cache s (.list r) who first final reply)
  | .create r, who, came, final, reply => Asked behind cache s (.create r) who came final reply
  | .update id r, who, came, final, reply =>
    Asked behind cache s (.update id r) who came final reply
  | .delete id, who, came, final, reply => Asked behind cache s (.delete id) who came final reply

end Course

/-! ### Operations obey -/

section Obeys

variable {behind : UserService σ} {cache : Layered ρ} {may : ρ → Prop}
  {sent : ρ → String → ByteArray → Prop} (h : cache.Recalls may sent) {s : CachedState σ ρ}
  (hfar : may s.tiers.far) {fit : List CachedStep → Nat → String → ByteArray → Prop}
  {log : List CachedStep} {who : Nat}

theorem onTiers_act {c : TierCall} {next : c.Reply → TierProgram α} :
    onTiers (.act c next) = .act (.tier c) fun a => onTiers (next a) := rfl

/-- A step that sets nothing may always be taken. -/
theorem setsFit_of_none {x : CachedAct} (hx : x.sets? = none) : SetsFit fit log who x := by
  intro key value hset
  rw [hx] at hset
  cases hset

/-- What is counted makes no difference. -/
theorem obeys_tally (counter : Counter) {p : TierProgram α} {post : List CachedStep → α → Prop}
    (hp : (onTiers p).Obeys (cachedHandle behind cache) s (SetsFit fit) who post log) :
    (onTiers (do tally counter; p)).Obeys (cachedHandle behind cache) s (SetsFit fit) who post log := by
  refine Program.obeys_act ?_
  intro later hlater _
  refine ⟨setsFit_of_none rfl, ?_⟩
  exact hp.mono (hlater.trans (List.prefix_append _ _))

theorem obeys_tallyTrouble (answer : Except Trouble Unit) {post : List CachedStep → Unit → Prop}
    (hpost : ∀ final, log <+: final → post final ()) :
    (onTiers (tallyTrouble answer)).Obeys (cachedHandle behind cache) s (SetsFit fit) who post log := by
  cases answer with
  | ok done => exact hpost
  | error e =>
    have hdone : (onTiers (pure ())).Obeys (cachedHandle behind cache) s (SetsFit fit) who post log :=
      hpost
    exact obeys_tally .remoteError hdone

include h hfar

/-- A lookup is answered with nothing but what the cache was known to hold, and copies nothing else to
the local tier. -/
theorem obeys_lookUp (hfit : Fitting behind cache s sent fit) (key : String) :
    (onTiers (lookUp cache.hasRemote key)).Obeys (cachedHandle behind cache) s (SetsFit fit) who
      (fun final found => ∀ bytes, found = some bytes →
        Recalled behind cache s sent key log final bytes) log := by
  have hnothing : ∀ {later : List CachedStep}, (onTiers (pure none)).Obeys
      (cachedHandle behind cache) s (SetsFit fit) who
      (fun final found => ∀ bytes, found = some bytes →
        Recalled behind cache s sent key log final bytes) later := by
    intro later final _ bytes hbytes
    cases hbytes
  simp only [lookUp]
  rw [onTiers_act]
  refine Program.obeys_act ?_
  intro later hlater _
  refine ⟨setsFit_of_none rfl, ?_⟩
  have hstep : later <+: later ++ [Program.stepOf (cachedHandle behind cache) s later who
      (.tier (.localGet key))] := List.prefix_append _ _
  have hnear : (cachedHandle behind cache (.tier (.localGet key))
      (Program.reached (cachedHandle behind cache) s later)).1 =
        (Program.reached (cachedHandle behind cache) s later).tiers.near.find? key :=
    Local.get_fst _ _
  rw [hnear]
  cases hfind : (Program.reached (cachedHandle behind cache) s later).tiers.near.find? key with
  | some value =>
    refine obeys_tally .localHit ?_
    intro final hfinal bytes hbytes
    rw [← Option.some.inj hbytes]
    exact ⟨later, hlater, hstep.trans hfinal, Or.inl hfind⟩
  | none =>
    dsimp only
    cases hhas : cache.hasRemote with
    | false => exact obeys_tally .miss hnothing
    | true =>
      rw [if_pos rfl, onTiers_act]
      refine Program.obeys_act ?_
      intro read hread hlawful
      refine ⟨setsFit_of_none rfl, ?_⟩
      have hread' : read <+: read ++ [Program.stepOf (cachedHandle behind cache) s read who
          (.tier (.remoteGet key))] := List.prefix_append _ _
      cases hanswer : (cachedHandle behind cache (.tier (.remoteGet key))
          (Program.reached (cachedHandle behind cache) s read)).1 with
      | ok value =>
        obtain ⟨-, hknown⟩ := known_of_answer h (known_reached h hfar read).1 hanswer
        have hvalue : fit read who key value := hfit.copied who hlawful hhas hknown
        refine obeys_tally .remoteHit ?_
        refine Program.obeys_act ?_
        intro copied hcopied _
        have hread'' : read <+: copied := hread'.trans hcopied
        refine ⟨?_, ?_⟩
        · intro other found hset
          obtain ⟨rfl, rfl⟩ := Prod.mk.inj (Option.some.inj hset)
          exact hfit.mono hread'' hvalue
        · intro final hfinal bytes hbytes
          rw [← Option.some.inj hbytes]
          refine ⟨read, hlater.trans (hstep.trans hread), ?_, hknown⟩
          exact hread''.trans ((List.prefix_append _ _).trans hfinal)
      | error e =>
        cases e with
        | miss => exact obeys_tally .miss hnothing
        | unavailable reason => exact obeys_tally .remoteError (obeys_tally .miss hnothing)
        | timeout after => exact obeys_tally .remoteError (obeys_tally .miss hnothing)
        | unreadable reason => exact obeys_tally .remoteError (obeys_tally .miss hnothing)

omit h hfar

/-- A call on the remote tier that only counts how it went. -/
theorem obeys_sent {y : TierCall} {next : y.Reply → TierProgram Unit}
    (hnext : ∀ a, ∃ answer, next a = tallyTrouble answer)
    (hy : ∀ later, log <+: later → SetsFit fit later who (.tier y))
    {post : List CachedStep → Unit → Prop} (hpost : ∀ final, log <+: final → post final ()) :
    (onTiers (.act y next)).Obeys (cachedHandle behind cache) s (SetsFit fit) who post log := by
  rw [onTiers_act]
  refine Program.obeys_act ?_
  intro later hlater _
  refine ⟨hy later hlater, ?_⟩
  obtain ⟨answer, hanswer⟩ := hnext (cachedHandle behind cache (.tier y)
    (Program.reached (cachedHandle behind cache) s later)).1
  rw [hanswer]
  refine obeys_tallyTrouble answer ?_
  intro final hfinal
  exact hpost final (hlater.trans ((List.prefix_append _ _).trans hfinal))

/-- A call on the local tier with one on the remote tier after it, if there is one. -/
theorem obeys_both {x y : TierCall} {next : y.Reply → TierProgram Unit}
    (hnext : ∀ a, ∃ answer, next a = tallyTrouble answer)
    (hx : ∀ later, log <+: later → SetsFit fit later who (.tier x))
    (hy : ∀ later, log <+: later → SetsFit fit later who (.tier y)) :
    (onTiers (.act x fun _ => if cache.hasRemote then .act y next else return ())).Obeys
      (cachedHandle behind cache) s (SetsFit fit) who
      (fun final _ => Program.Takes (cachedHandle behind cache) s who [.tier x] log final) log := by
  rw [onTiers_act]
  refine Program.obeys_act ?_
  intro later hlater _
  refine ⟨hx later hlater, ?_⟩
  have htaken : ∀ final, later ++ [Program.stepOf (cachedHandle behind cache) s later who (.tier x)] <+:
      final → Program.Takes (cachedHandle behind cache) s who [.tier x] log final :=
    fun final hfinal => ⟨later, hlater, hfinal⟩
  cases cache.hasRemote with
  | false => exact htaken
  | true =>
    rw [if_pos rfl]
    refine obeys_sent hnext ?_ htaken
    intro sending hsending
    exact hy sending (hlater.trans ((List.prefix_append _ _).trans hsending))

/-- A value may be stored if it fits from now on. -/
theorem obeys_store {key : String} {value : ByteArray}
    (hfits : ∀ later, log <+: later → fit later who key value) :
    (onTiers (store cache.hasRemote key value)).Obeys (cachedHandle behind cache) s (SetsFit fit) who
      (fun final _ => Program.Takes (cachedHandle behind cache) s who [.tier (.localSet key value)]
        log final) log := by
  have hrule : ∀ {x : CachedAct}, x.sets? = some (key, value) →
      ∀ later, log <+: later → SetsFit fit later who x := by
    intro x hx later hlater other found hset
    rw [hx] at hset
    obtain ⟨rfl, rfl⟩ := Prod.mk.inj (Option.some.inj hset)
    exact hfits later hlater
  exact obeys_both (y := .remoteSet key value) (fun answer => ⟨answer, rfl⟩) (hrule rfl) (hrule rfl)

/-- A removal sets nothing. -/
theorem obeys_remove (key : String) :
    (onTiers (remove cache.hasRemote key)).Obeys (cachedHandle behind cache) s (SetsFit fit) who
      (fun final _ => Program.Takes (cachedHandle behind cache) s who [.tier (.localDelete key)]
        log final) log :=
  obeys_both (y := .remoteDelete key) (fun answer => ⟨answer, rfl⟩)
    (fun _ _ => setsFit_of_none rfl) (fun _ _ => setsFit_of_none rfl)

theorem obeys_newGeneration :
    newGeneration.Obeys (cachedHandle behind cache) s (SetsFit fit) who
      (fun final _ => Program.Takes (cachedHandle behind cache) s who [.bump] log final) log := by
  refine (Program.obeys_take fun _ _ _ => setsFit_of_none rfl).imp ?_
  rintro final done - ⟨early, hearly, -, hstep⟩
  exact ⟨early, hearly, hstep⟩

/-- The service behind is asked at some moment. -/
theorem obeys_askBase (op : Operation) :
    (askBase op).Obeys (cachedHandle behind cache) s (SetsFit fit) who
      (fun final reply => ∃ early, log <+: early ∧
        reply = (cachedHandle behind cache (.base op)
          (Program.reached (cachedHandle behind cache) s early)).1 ∧
        early ++ [Program.stepOf (cachedHandle behind cache) s early who (.base op)] <+: final) log :=
  Program.obeys_take fun _ _ _ => setsFit_of_none rfl

theorem obeys_cachedCreate (hfit : Fitting behind cache s sent fit) (r : CreateRequest) :
    (cachedCreate cache.hasRemote r).Obeys (cachedHandle behind cache) s (SetsFit fit) who
      (Asked behind cache s (.create r) who log) log := by
  simp only [cachedCreate]
  refine (obeys_askBase (.create r)).bind ?_
  rintro reply asked - ⟨early, hearly, hreply, hasked⟩
  cases reply with
  | error e => exact fun final hfinal => ⟨early, hearly, hreply, hasked.trans hfinal⟩
  | ok u =>
    refine obeys_newGeneration.bind ?_
    rintro ⟨⟩ bumped hbumped htakes
    refine (obeys_store (hfit.user_from rfl hreply (hasked.trans hbumped))).bind ?_
    rintro ⟨⟩ stored - hstored final hfinal
    refine ⟨early, hearly, hreply, ?_⟩
    exact ((htakes.after hasked).append hstored).extend hfinal

theorem obeys_cachedUpdate (hfit : Fitting behind cache s sent fit) (id : UserId)
    (r : UpdateRequest) :
    (cachedUpdate cache.hasRemote id r).Obeys (cachedHandle behind cache) s (SetsFit fit) who
      (Asked behind cache s (.update id r) who log) log := by
  simp only [cachedUpdate]
  refine (obeys_askBase (.update id r)).bind ?_
  rintro reply asked - ⟨early, hearly, hreply, hasked⟩
  cases reply with
  | error e => exact fun final hfinal => ⟨early, hearly, hreply, hasked.trans hfinal⟩
  | ok u =>
    refine (obeys_remove (userKey id)).bind ?_
    rintro ⟨⟩ removed hremoved htakes
    refine obeys_newGeneration.bind ?_
    rintro ⟨⟩ bumped hbumped htakes'
    have hstep := hasked.trans (hremoved.trans hbumped)
    refine (obeys_store (hfit.user_from rfl hreply hstep)).bind ?_
    rintro ⟨⟩ stored - hstored final hfinal
    refine ⟨early, hearly, hreply, ?_⟩
    exact ((htakes.after hasked).append (htakes'.append hstored)).extend hfinal

theorem obeys_cachedDelete (id : UserId) :
    (cachedDelete cache.hasRemote id).Obeys (cachedHandle behind cache) s (SetsFit fit) who
      (Asked behind cache s (.delete id) who log) log := by
  simp only [cachedDelete]
  refine (obeys_askBase (.delete id)).bind ?_
  rintro reply asked - ⟨early, hearly, hreply, hasked⟩
  cases reply with
  | error e => exact fun final hfinal => ⟨early, hearly, hreply, hasked.trans hfinal⟩
  | ok done =>
    refine (obeys_remove (userKey id)).bind ?_
    rintro ⟨⟩ removed - htakes
    refine obeys_newGeneration.bind ?_
    rintro ⟨⟩ bumped - htakes' final hfinal
    refine ⟨early, hearly, hreply, ?_⟩
    exact ((htakes.after hasked).append htakes').extend hfinal

include h hfar

theorem obeys_cachedGet (hfit : Fitting behind cache s sent fit) (id : UserId) :
    (cachedGet cache.hasRemote id).Obeys (cachedHandle behind cache) s (SetsFit fit) who
      (Course behind cache s sent (.get id) who log) log := by
  have hcached : (cachedUser cache.hasRemote id).Obeys (cachedHandle behind cache) s (SetsFit fit)
      who (fun final found => ∀ u, found = some u → ∃ bytes,
        Recalled behind cache s sent (userKey id) log final bytes ∧ decodeUser? bytes = some u)
      log := by
    simp only [cachedUser]
    refine (obeys_lookUp h hfar hfit (userKey id)).bind ?_
    intro found later hlater hfound
    cases found with
    | none =>
      intro final hfinal u hu
      cases hu
    | some bytes =>
      intro final hfinal u hu
      obtain ⟨early, hearly, hknown, hheld⟩ := hfound bytes rfl
      exact ⟨bytes, ⟨early, hearly, hknown.trans hfinal, hheld⟩, hu⟩
  simp only [cachedGet]
  refine hcached.bind ?_
  intro found later hlater hfound
  cases found with
  | some u =>
    intro final hfinal
    obtain ⟨bytes, ⟨early, hearly, hknown, hheld⟩, hdecoded⟩ := hfound u rfl
    exact Or.inl ⟨bytes, u, ⟨early, hearly, hknown.trans hfinal, hheld⟩, hdecoded, rfl⟩
  | none =>
    refine (obeys_askBase (.get id)).bind ?_
    rintro reply asked - ⟨early, hearly, hreply, hasked⟩
    cases reply with
    | error e =>
      exact fun final hfinal => Or.inr ⟨early, hlater.trans hearly, hreply, hasked.trans hfinal⟩
    | ok u =>
      refine (obeys_store (hfit.user_from rfl hreply hasked)).bind ?_
      rintro ⟨⟩ stored hstored - final hfinal
      exact Or.inr ⟨early, hlater.trans hearly, hreply, hasked.trans (hstored.trans hfinal)⟩

theorem obeys_cachedList (hfit : Fitting behind cache s sent fit) (r : PageRequest) :
    (cachedList cache.hasRemote r).Obeys (cachedHandle behind cache) s (SetsFit fit) who
      (Course behind cache s sent (.list r) who log) log := by
  have hcached : ∀ {key : String} {log : List CachedStep}, (cachedPage cache.hasRemote key r).Obeys
      (cachedHandle behind cache) s (SetsFit fit) who (fun final found => ∀ p, found = some p →
        ∃ bytes b, Recalled behind cache s sent key log final bytes ∧
          decodeBundle? bytes = some b ∧ p = b.page r) log := by
    intro key log
    simp only [cachedPage]
    refine (obeys_lookUp h hfar hfit key).bind ?_
    intro found later hlater hfound
    cases found with
    | none =>
      intro final hfinal p hp
      cases hp
    | some bytes =>
      intro final hfinal p hp
      obtain ⟨early, hearly, hknown, hheld⟩ := hfound bytes rfl
      obtain ⟨b, hb, hpage⟩ := Option.map_eq_some_iff.1 hp
      exact ⟨bytes, b, ⟨early, hearly, hknown.trans hfinal, hheld⟩, hb, hpage.symm⟩
  simp only [cachedList]
  refine (Program.obeys_take fun _ _ _ => setsFit_of_none rfl).bind ?_
  rintro generation later - ⟨first, hfirst, rfl, hlater⟩
  have hbegun : first <+: later := (List.prefix_append _ _).trans hlater
  refine hcached.bind ?_
  intro found read hread hfound
  cases found with
  | some p =>
    intro final hfinal
    obtain ⟨bytes, b, ⟨early, hearly, hknown, hheld⟩, hdecoded, hpage⟩ := hfound p rfl
    refine ⟨first, hfirst, Or.inl ⟨bytes, b, ?_, hdecoded, by rw [hpage]⟩⟩
    exact ⟨early, hbegun.trans hearly, hknown.trans hfinal, hheld⟩
  | none =>
    refine (obeys_askBase (.list r)).bind ?_
    rintro reply asked - ⟨early, hearly, hreply, hasked⟩
    have hbefore : first <+: early := hbegun.trans (hread.trans hearly)
    cases reply with
    | error e =>
      exact fun final hfinal =>
        ⟨first, hfirst, Or.inr ⟨early, hbefore, hreply, hasked.trans hfinal⟩⟩
    | ok p =>
      have hfits : ∀ later, asked <+: later → fit later who
          (pageKey (Program.reached (cachedHandle behind cache) s first).generation.current r)
          (encodeBundle (.ofPage p)) := by
        intro later hlater
        exact hfit.mono (hasked.trans hlater) (hfit.page hbefore hreply.symm)
      refine (obeys_store hfits).bind ?_
      rintro ⟨⟩ stored hstored - final hfinal
      exact ⟨first, hfirst, Or.inr ⟨early, hbefore, hreply, hasked.trans (hstored.trans hfinal)⟩⟩

/-- Every operation sets only what fits, and is answered as one of its courses says. -/
theorem operate_obeys (hfit : Fitting behind cache s sent fit) (op : Operation) :
    (cachedOperate cache.hasRemote op).Obeys (cachedHandle behind cache) s (SetsFit fit) who
      (Course behind cache s sent op who log) log := by
  cases op with
  | create r => exact obeys_cachedCreate hfit r
  | get id => exact obeys_cachedGet h hfar hfit id
  | update id r => exact obeys_cachedUpdate hfit id r
  | delete id => exact obeys_cachedDelete id
  | list r => exact obeys_cachedList h hfar hfit r

end Obeys

/-! ### How many steps operations take -/

section AtMost

variable {counts : CachedAct → Bool}

theorem onTiers_atMost {n : Nat} {p : TierProgram α}
    (h : p.AtMost (fun c => counts (.tier c)) n) : (onTiers p).AtMost counts n := by
  induction p generalizing n with
  | done a => exact trivial
  | act c next ih => exact ⟨h.1, fun a => ih a (h.2 a)⟩

/-- A program of calls on the tiers takes no other steps. -/
theorem onTiers_atMost_zero (hcounts : ∀ c, counts (.tier c) = false) (p : TierProgram α) :
    (onTiers p).AtMost counts 0 := by
  induction p with
  | done a => exact trivial
  | act c next ih =>
    refine ⟨by rw [hcounts]; exact Nat.le_refl 0, fun a => ?_⟩
    rw [hcounts]
    exact ih a

/-- How many of the steps that count an operation takes, given how many its parts do. -/
theorem operate_atMost (remote : Bool) (op : Operation) {l w n : Nat}
    (hlook : ∀ key, (onTiers (lookUp remote key)).AtMost counts l)
    (hstore : ∀ key value, (onTiers (store remote key value)).AtMost counts w)
    (hremove : ∀ key, (onTiers (remove remote key)).AtMost counts w)
    (hchange : 1 + (w + ((counts .bump).toNat + w)) ≤ n)
    (hread : (counts .generation).toNat + (l + (1 + w)) ≤ n) :
    (cachedOperate remote op).AtMost counts n := by
  have hask : ∀ op, (askBase op).AtMost counts 1 :=
    fun op => (Program.atMost_take _).mono (Bool.toNat_le _)
  have hbump : newGeneration.AtMost counts (counts .bump).toNat := Program.atMost_take _
  have hlast : ∀ {α : Type} (a : α) (key : String) (value : ByteArray),
      (do onTiers (store remote key value); return a : CachedProgram α).AtMost counts w :=
    fun a key value => (hstore key value).bind (n := 0) fun _ => trivial
  cases op with
  | create r =>
    refine ((hask _).bind (n := (counts .bump).toNat + w) ?_).mono (by omega)
    intro reply
    cases reply with
    | error e => exact trivial
    | ok u => exact hbump.bind fun _ => hlast _ _ _
  | update id r =>
    refine ((hask _).bind (n := w + ((counts .bump).toNat + w)) ?_).mono (by omega)
    intro reply
    cases reply with
    | error e => exact trivial
    | ok u => exact (hremove _).bind fun _ => hbump.bind fun _ => hlast _ _ _
  | delete id =>
    refine ((hask _).bind (n := w + ((counts .bump).toNat + 0)) ?_).mono (by omega)
    intro reply
    cases reply with
    | error e => exact trivial
    | ok done => exact (hremove _).bind fun _ => hbump.bind fun _ => trivial
  | get id =>
    have hcached : (cachedUser remote id).AtMost counts l := by
      refine (hlook _).bind (n := 0) ?_
      intro found
      cases found <;> exact trivial
    refine (hcached.bind (n := 1 + w) ?_).mono (by omega)
    intro found
    cases found with
    | some u => exact trivial
    | none =>
      refine (hask _).bind ?_
      intro reply
      cases reply with
      | error e => exact trivial
      | ok u => exact hlast _ _ _
  | list r =>
    have hcached : ∀ key, (cachedPage remote key r).AtMost counts l := by
      intro key
      refine (hlook key).bind (n := 0) ?_
      intro found
      cases found <;> exact trivial
    refine ((Program.atMost_take _).bind (n := l + (1 + w)) ?_).mono hread
    intro generation
    refine (hcached _).bind ?_
    intro found
    cases found with
    | some p => exact trivial
    | none =>
      refine (hask _).bind ?_
      intro reply
      cases reply with
      | error e => exact trivial
      | ok p => exact hlast _ _ _

end AtMost

theorem lookUp_atMost (remote : Bool) (key : String) :
    (lookUp remote key).AtMost (fun _ => true) 4 := by
  refine Program.atMost_act ?_
  intro found
  cases found with
  | some value => exact Program.atMost_act fun _ => trivial
  | none =>
    cases remote with
    | false => exact Program.atMost_act fun _ => trivial
    | true =>
      refine Program.atMost_act ?_
      intro answer
      rcases answer with e | value
      · cases e with
        | miss => exact Program.atMost_act fun _ => trivial
        | unavailable reason => exact Program.atMost_act fun _ => Program.atMost_act fun _ => trivial
        | timeout after => exact Program.atMost_act fun _ => Program.atMost_act fun _ => trivial
        | unreadable reason => exact Program.atMost_act fun _ => Program.atMost_act fun _ => trivial
      · exact Program.atMost_act fun _ => Program.atMost_act fun _ => trivial

theorem tallyTrouble_atMost (answer : Except Trouble Unit) :
    (tallyTrouble answer).AtMost (fun _ => true) 1 := by
  cases answer with
  | ok done => exact trivial
  | error e => exact Program.atMost_act fun _ => trivial

theorem both_atMost (remote : Bool) {x y : TierCall} {next : y.Reply → TierProgram Unit}
    (hnext : ∀ a, ∃ answer, next a = tallyTrouble answer) :
    (.act x fun _ => if remote then .act y next else return () : TierProgram Unit).AtMost
      (fun _ => true) 3 := by
  refine Program.atMost_act ?_
  intro done
  cases remote with
  | false => exact trivial
  | true =>
    refine Program.atMost_act ?_
    intro a
    obtain ⟨answer, hanswer⟩ := hnext a
    rw [hanswer]
    exact tallyTrouble_atMost answer

theorem store_atMost (remote : Bool) (key : String) (value : ByteArray) :
    (store remote key value).AtMost (fun _ => true) 3 :=
  both_atMost remote (y := .remoteSet key value) fun answer => ⟨answer, rfl⟩

theorem remove_atMost (remote : Bool) (key : String) :
    (remove remote key).AtMost (fun _ => true) 3 :=
  both_atMost remote (y := .remoteDelete key) fun answer => ⟨answer, rfl⟩

/-- No operation takes more than nine steps. -/
theorem operate_within (remote : Bool) (op : Operation) :
    (cachedOperate remote op).AtMost (fun _ => true) 9 :=
  operate_atMost remote op (fun key => onTiers_atMost (lookUp_atMost remote key))
    (fun key value => onTiers_atMost (store_atMost remote key value))
    (fun key => onTiers_atMost (remove_atMost remote key)) (by decide) (by decide)

/-- Whether a step asks the service behind. -/
def CachedAct.asks : CachedAct → Bool
  | .base _ => true
  | _ => false

/-- No operation asks the service behind twice. -/
theorem operate_asks_once (remote : Bool) (op : Operation) :
    (cachedOperate remote op).AtMost CachedAct.asks 1 :=
  operate_atMost remote op (fun _ => onTiers_atMost_zero (fun _ => rfl) _)
    (fun _ _ => onTiers_atMost_zero (fun _ => rfl) _)
    (fun _ => onTiers_atMost_zero (fun _ => rfl) _) (by decide) (by decide)

/-! ### Crowds of requests -/

/-- Requests to services in front of one service behind, one cache and one count of generations, side by
side: they come and take their steps as the moves say. -/
def sideBySide (behind : UserService σ) (cache : Layered ρ) (moves : List (Move Operation))
    (s : CachedState σ ρ) :
    Crowd Operation Operation.Reply CachedAct CachedAct.Reply (CachedState σ ρ) :=
  (Crowd.start s).run (cachedOperate cache.hasRemote) (cachedHandle behind cache) moves

section Crowd

variable {behind : UserService σ} {cache : Layered ρ} {may : ρ → Prop}
  {sent : ρ → String → ByteArray → Prop} {s : CachedState σ ρ}
  {fit : List CachedStep → Nat → String → ByteArray → Prop}

theorem sideBySide_orderly (h : cache.Recalls may sent) (hfar : may s.tiers.far)
    (hfit : Fitting behind cache s sent fit) (moves : List (Move Operation)) :
    (sideBySide behind cache moves s).Orderly (cachedHandle behind cache) s (SetsFit fit)
      (Course behind cache s sent) :=
  Crowd.Orderly.start.run (fun op _ _ => operate_obeys h hfar hfit op) moves

theorem sideBySide_append (moves more : List (Move Operation)) :
    sideBySide behind cache (moves ++ more) s =
      (sideBySide behind cache moves s).run (cachedOperate cache.hasRemote)
        (cachedHandle behind cache) more :=
  Crowd.run_append _ _ moves more _

/-- A request that comes after some moves keeps in mind which steps had been taken by then. -/
theorem errands_sideBySide (behind : UserService σ) (cache : Layered ρ) (s : CachedState σ ρ)
    (before since : List (Move Operation)) (op : Operation) :
    (sideBySide behind cache before s).log <+:
        (sideBySide behind cache (before ++ .come op :: since) s).log ∧
      ∃ rest, (sideBySide behind cache (before ++ .come op :: since) s).errands[
          (sideBySide behind cache before s).errands.length]? =
        some ⟨op, (sideBySide behind cache before s).log, rest⟩ := by
  rw [sideBySide_append]
  refine ⟨Crowd.log_run _ _ _ _, ?_⟩
  exact Crowd.errands_run _ _ since (Crowd.errands_come _ _ op _)

/-- A request is answered once it has had nine turns. -/
theorem answered_sideBySide (behind : UserService σ) (cache : Layered ρ) (s : CachedState σ ρ)
    (before : List (Move Operation)) (op : Operation) {since : List (Move Operation)}
    (hturns : 9 ≤ since.countP
      (Move.isTurn (sideBySide behind cache before s).errands.length)) :
    ∃ reply, (sideBySide behind cache (before ++ .come op :: since) s).answer?
      (sideBySide behind cache before s).errands.length = some ⟨op, reply⟩ := by
  rw [sideBySide_append]
  exact Crowd.answered_of_turns _ _ (Crowd.errands_come _ _ op _)
    (operate_within cache.hasRemote op) hturns

/-- A request that was answered after it came is answered as one of its courses says. -/
theorem course_of_answer {before since : List (Move Operation)} {op : Operation}
    (horderly : (sideBySide behind cache (before ++ .come op :: since) s).Orderly
      (cachedHandle behind cache) s (SetsFit fit) (Course behind cache s sent))
    {a : (op : Operation) × op.Reply}
    (ha : (sideBySide behind cache (before ++ .come op :: since) s).answer?
      (sideBySide behind cache before s).errands.length = some a) :
    ∃ reply, a = ⟨op, reply⟩ ∧
      Course behind cache s sent op (sideBySide behind cache before s).errands.length
        (sideBySide behind cache before s).log
        (sideBySide behind cache (before ++ .come op :: since) s).log reply := by
  obtain ⟨q, reply⟩ := a
  obtain ⟨came, -, herrand, hcourse⟩ := horderly.post_of_answer ha
  obtain ⟨-, rest, hrest⟩ := errands_sideBySide behind cache s before since op
  rw [herrand] at hrest
  obtain ⟨rfl, hsame⟩ := Errand.mk.inj (Option.some.inj hrest)
  obtain ⟨rfl, -⟩ := hsame
  exact ⟨reply, rfl, hcourse⟩

/-- No request asks the service behind twice. -/
theorem asks_once (moves : List (Move Operation)) (who : Nat) :
    Crowd.stepsOf CachedAct.asks who (sideBySide behind cache moves s).log ≤ 1 :=
  ((Crowd.Limited.start CachedAct.asks 1 s).run _ _ (operate_asks_once cache.hasRemote)
    moves).stepsOf_le who

/-- What was answered with a change has asked the service behind. -/
theorem asked_of_changed {op : Operation} {who : Nat} {came final : List CachedStep}
    {reply : op.Reply} (hcourse : Course behind cache s sent op who came final reply)
    (hchanged : op.changed reply = true) : Asked behind cache s op who came final reply := by
  cases op with
  | create r => exact hcourse
  | get id => cases hchanged
  | update id r => exact hcourse
  | delete id => exact hcourse
  | list r => cases hchanged

end Crowd

/-! ### In front of a repository -/

/-- The state after a log of steps of services in front of a repository. -/
abbrev frontedAt (cache : Layered ρ) (s : Fronted ρ) (log : List CachedStep) : Fronted ρ :=
  Program.reached (cachedHandle (base tableBacking) cache) s log

end Roster.Service
