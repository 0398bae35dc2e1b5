import Roster.Proofs.Service.SideBySide

/-!
# Reads among concurrent requests

A read that the cache has no record for asks the service behind, and caches the record in a later step.
A change that is made and answered between these two steps is overtaken: the record of the read is
cached after the change has removed what was cached, and is from before the change.

* `near_reached` says that the local tier holds what the last write of a key has set.
* `RecordsFit` says that a record that is set was got from the service behind by the same request.
* `read_shows_change` says that a read that comes after a change has been answered shows the change,
  unless the change was overtaken by such a request (`FilledLate`). `deleted_user_read_late` is a run in
  which it was.
-/

namespace Roster.Service

open Roster.Cache Roster.Store

variable {ρ : Type}

/-! ### The last write -/

/-- Whether a step sets or removes the value under a key of the local tier. -/
def CachedAct.writes (key : String) : CachedAct → Bool
  | .tier (.localSet other _) => other = key
  | .tier (.localDelete other) => other = key
  | _ => false

/-- Whether a step is a call on the remote tier. -/
def CachedAct.isRemote : CachedAct → Bool
  | .tier (.remoteGet _) => true
  | .tier (.remoteSet ..) => true
  | .tier (.remoteDelete _) => true
  | _ => false

theorem near_of_remote {σ : Type} {behind : UserService σ} {cache : Layered ρ} {s : CachedState σ ρ}
    {x : CachedAct} (hx : x.isRemote = true) :
    (cachedHandle behind cache x s).2.tiers.near = s.tiers.near := by
  cases x with
  | tier c =>
    simp only [cachedHandle]
    cases c with
    | localGet key => cases hx
    | localSet key value => cases hx
    | localDelete key => cases hx
    | tally counter => cases hx
    | _ =>
      simp only [Layered.handle]
      split <;> rfl
  | base op => cases hx
  | generation => cases hx
  | bump => cases hx

/-- A step that does not write a key brings nothing in under it. -/
theorem near_unwritten {σ : Type} {behind : UserService σ} {cache : Layered ρ} {s : CachedState σ ρ}
    {x : CachedAct} {key : String} {value : ByteArray} (hx : x.writes key = false)
    (h : (cachedHandle behind cache x s).2.tiers.near.find? key = some value) :
    s.tiers.near.find? key = some value := by
  cases x with
  | base op => exact h
  | generation => exact h
  | bump => exact h
  | tier c =>
    cases c with
    | localGet other => exact Local.find?_get h
    | localSet other found =>
      have hset := Local.find?_set h
      rwa [if_neg (of_decide_eq_false hx)] at hset
    | localDelete other => exact (Local.find?_delete h).2
    | remoteGet other => rwa [near_of_remote rfl] at h
    | remoteSet other found => rwa [near_of_remote rfl] at h
    | remoteDelete other => rwa [near_of_remote rfl] at h
    | tally counter => exact h

/-- A step that writes a key sets the value that is found then. -/
theorem near_written {σ : Type} {behind : UserService σ} {cache : Layered ρ} {s : CachedState σ ρ}
    {x : CachedAct} {key : String} {value : ByteArray} (hx : x.writes key = true)
    (h : (cachedHandle behind cache x s).2.tiers.near.find? key = some value) :
    x = .tier (.localSet key value) := by
  cases x with
  | base op => cases hx
  | generation => cases hx
  | bump => cases hx
  | tier c =>
    cases c with
    | localSet other found =>
      have hkey : other = key := of_decide_eq_true hx
      have hset := Local.find?_set h
      rw [if_pos hkey] at hset
      rw [hkey, hset]
    | localDelete other => exact absurd (of_decide_eq_true hx) (Local.find?_delete h).1
    | localGet other => cases hx
    | remoteGet other => cases hx
    | remoteSet other found => cases hx
    | remoteDelete other => cases hx
    | tally counter => cases hx

/-- What the local tier holds under a key was there at first, or was set by the last step that wrote the
key. -/
theorem near_reached {σ : Type} {behind : UserService σ} {cache : Layered ρ} {s : CachedState σ ρ}
    {log : List CachedStep} {key : String} {value : ByteArray}
    (h : (Program.reached (cachedHandle behind cache) s log).tiers.near.find? key = some value) :
    (∀ step ∈ log, step.action.writes key = false) ∨
      ∃ early who rest, log = early ++ ⟨who, .tier (.localSet key value), ()⟩ :: rest ∧
        ∀ step ∈ rest, step.action.writes key = false := by
  induction log using List.reverseRecOn with
  | nil => exact Or.inl fun step hstep => nomatch hstep
  | append_singleton log step ih =>
    rw [Program.reached_snoc] at h
    cases hx : step.action.writes key with
    | false =>
      rcases ih (near_unwritten hx h) with hnone | ⟨early, who, rest, rfl, hrest⟩
      · refine Or.inl fun other hother => ?_
        rcases List.mem_append.1 hother with hbefore | hlast
        · exact hnone other hbefore
        · rwa [List.mem_singleton.1 hlast]
      · refine Or.inr ⟨early, who, rest ++ [step], by simp, fun other hother => ?_⟩
        rcases List.mem_append.1 hother with hbefore | hlast
        · exact hrest other hbefore
        · rwa [List.mem_singleton.1 hlast]
    | true =>
      rcases step with ⟨who, x, answer⟩
      have hset : x = .tier (.localSet key value) := near_written hx h
      subst hset
      exact Or.inr ⟨log, who, [], rfl, fun other hother => nomatch hother⟩

/-! ### The repository behind -/

section Log

variable {cache : Layered ρ} {s : Fronted ρ}

theorem sound_reached (cache : Layered ρ) (hsound : s.behind.store.table.Sound)
    (log : List CachedStep) : (frontedAt cache s log).behind.store.table.Sound := by
  induction log using List.reverseRecOn with
  | nil => exact hsound
  | append_singleton log step ih =>
    simp only [frontedAt] at ih ⊢
    rw [Program.reached_snoc]
    cases step.action with
    | base op => exact base_sound ih op
    | generation => exact ih
    | bump => exact ih
    | tier c => exact ih

/-- No step loses a row of the table. -/
theorem follows_reached (cache : Layered ρ) (hsound : s.behind.store.table.Sound)
    {log later : List CachedStep} (h : log <+: later) :
    (frontedAt cache s log).behind.store.table.Follows
      (frontedAt cache s later).behind.store.table := by
  obtain ⟨more, rfl⟩ := h
  induction more using List.reverseRecOn with
  | nil =>
    rw [List.append_nil]
    exact Table.Follows.refl _
  | append_singleton more step ih =>
    have hstep : (frontedAt cache s (log ++ more)).behind.store.table.Follows
        (frontedAt cache s (log ++ more ++ [step])).behind.store.table := by
      have hsound' := sound_reached cache hsound (log ++ more)
      simp only [frontedAt] at hsound' ⊢
      rw [Program.reached_snoc]
      cases step.action with
      | base op => exact base_follows hsound' op
      | generation => exact Table.Follows.refl _
      | bump => exact Table.Follows.refl _
      | tier c => exact Table.Follows.refl _
    rw [← List.append_assoc]
    exact ih.trans hstep

/-- The user whom an operation is answered with is live after it. -/
theorem live_of_user {w : World Repository} (hsound : w.store.table.Sound) {op : Operation} {u : User}
    (h : op.user? ((base tableBacking).run op w).1 = some u) :
    ((base tableBacking).run op w).2.store.table.find? u.id = some u := by
  have hput : ∀ {t : Table}, u.isLive = true → Table.find? (Keyed.put t u.id u) u.id = some u := by
    intro t hlive
    rw [Table.find?_put, if_pos rfl, Option.filter_some, if_pos hlive]
  cases op with
  | create r =>
    cases hanswer : ((base tableBacking).run (.create r) w).1 with
    | error e => rw [hanswer] at h; cases h
    | ok v =>
      rw [hanswer] at h
      obtain rfl : v = u := Option.some.inj h
      obtain ⟨hlive, -, hstore⟩ := base_create_ok hanswer
      rw [hstore]
      exact hput hlive
  | get id =>
    rw [base_get] at h ⊢
    cases hfind : w.store.table.find? id with
    | none => rw [hfind] at h; cases h
    | some v =>
      rw [hfind] at h
      obtain rfl : v = u := Option.some.inj h
      rw [hsound.id_eq (Table.find?_eq_some.1 hfind).1]
      exact hfind
  | update id r =>
    cases hanswer : ((base tableBacking).run (.update id r) w).1 with
    | error e => rw [hanswer] at h; cases h
    | ok v =>
      rw [hanswer] at h
      obtain rfl : v = u := Option.some.inj h
      obtain ⟨-, -, -, hlive, hstore⟩ := base_update_ok hanswer
      rw [hstore]
      exact hput hlive
  | delete id => cases h
  | list r => cases h

/-- A user who was deleted is gone for good. -/
theorem gone_of_deleted (hsound : s.behind.store.table.Sound) {id : UserId}
    {made moment : List CachedStep} {who : Nat}
    (hdeleted : ((base tableBacking).run (.delete id) (frontedAt cache s made).behind).1 = .ok ())
    (hmoment : made ++ [⟨who, .base (.delete id), .ok ()⟩] <+: moment) :
    (frontedAt cache s moment).live id = none := by
  obtain ⟨v, now, -, hstore⟩ := base_delete_ok hdeleted
  have hfollows := follows_reached cache hsound hmoment
  have hrow : Keyed.get? (frontedAt cache s
      (made ++ [⟨who, .base (.delete id), .ok ()⟩])).behind.store.table id =
        some (v.markDeleted now) := by
    simp only [frontedAt]
    rw [Program.reached_snoc]
    show Keyed.get? ((base tableBacking).run (.delete id) _).2.store.table id = _
    rw [hstore, Keyed.get?_put, if_pos rfl]
  have hlater := (hfollows id _ hrow).2 rfl
  exact Table.find?_eq_none_of_deleted hlater rfl

/-! ### Records -/

/-- A record that is set under the key of a user was got from the service behind by the same request. -/
def RecordsFit (cache : Layered ρ) (s : Fronted ρ) (log : List CachedStep) (who : Nat) (key : String)
    (bytes : ByteArray) : Prop :=
  ∀ id, key = userKey id → ∃ first op u,
    first ++ [Program.stepOf (cachedHandle (base tableBacking) cache) s first who (.base op)] <+: log ∧
      op.user? ((base tableBacking).run op (frontedAt cache s first).behind).1 = some u ∧
      u.id = id ∧ bytes = encodeUser u

/-- What operations set is either a page or such a record. -/
theorem records_fitting (halone : cache.remote = none) (sent : ρ → String → ByteArray → Prop) :
    Fitting (base tableBacking) cache s sent (RecordsFit cache s) where
  mono hlater hfits id hkey := by
    obtain ⟨first, op, u, hfirst, huser⟩ := hfits id hkey
    exact ⟨first, op, u, hfirst.trans hlater, huser⟩
  copied who _ hhas _ := by
    simp only [Layered.hasRemote] at hhas
    rw [halone] at hhas
    cases hhas
  user {log who op u} huser id hkey :=
    ⟨log, op, u, List.prefix_refl _, huser, userKey_inj.1 hkey, rfl⟩
  page {first log who r p} _ _ id hkey := absurd hkey.symm (userKey_ne_pageKey id _ r)

/-! ### Changes of a user -/

/-- The user whom an operation changes or deletes. -/
def Operation.target? : Operation → Option UserId
  | .update id _ => some id
  | .delete id => some id
  | _ => none

/-- The answer is what the service behind has at a moment of the log after a step was taken. -/
def ShownAfter (cache : Layered ρ) (s : Fronted ρ) (log : List CachedStep) (step : CachedStep)
    (id : UserId) (answer : Except Failure User) : Prop :=
  ∃ made moment, made ++ [step] <+: moment ∧ moment <+: log ∧
    answer = ((base tableBacking).run (.get id) (frontedAt cache s moment).behind).1

/-- Another request got a record from the service behind before the change was made, and cached it after
all that the change has written to the cache. -/
def FilledLate (cache : Layered ρ) (s : Fronted ρ) (log : List CachedStep) (m : Nat) (op : Operation)
    (reply : op.Reply) (id : UserId) (u : User) : Prop :=
  ∃ made read filled other asked, other ≠ m ∧ u.id = id ∧
    read ++ [Program.stepOf (cachedHandle (base tableBacking) cache) s read other (.base asked)] <+:
      made ∧
    asked.user? ((base tableBacking).run asked (frontedAt cache s read).behind).1 = some u ∧
    made ++ [⟨m, .base op, reply⟩] <+: log ∧
    filled ++ [⟨other, .tier (.localSet (userKey id) (encodeUser u)), ()⟩] <+: log ∧
    ∀ x ∈ op.aftermath reply, x.writes (userKey id) = true →
      ∃ earlier step, earlier ++ [step] <+: filled ∧ step.who = m ∧ step.action = x

/-- A change of a user removes what is cached of the user. -/
theorem delete_mem_aftermath {op : Operation} {reply : op.Reply} {id : UserId}
    (htarget : op.target? = some id) (hchanged : op.changed reply = true) :
    .tier (.localDelete (userKey id)) ∈ op.aftermath reply := by
  cases op with
  | create r => cases htarget
  | get other => cases htarget
  | update other r =>
    obtain rfl := Option.some.inj htarget
    cases reply with
    | error e => cases hchanged
    | ok u => exact List.mem_cons_self
  | delete other =>
    obtain rfl := Option.some.inj htarget
    cases reply with
    | error e => cases hchanged
    | ok done => exact List.mem_cons_self
  | list r => cases htarget

/-- What a change caches is the user whom it was answered with. -/
theorem user_of_localSet {op : Operation} {reply : op.Reply} {key : String} {value : ByteArray}
    (h : .tier (.localSet key value) ∈ op.aftermath reply) :
    ∃ u, op.user? reply = some u ∧ key = userKey u.id ∧ value = encodeUser u := by
  cases op with
  | create r =>
    cases reply with
    | error e => cases h
    | ok u =>
      simp only [Operation.aftermath, List.mem_cons, List.not_mem_nil, or_false, reduceCtorEq,
        false_or, CachedAct.tier.injEq, TierCall.localSet.injEq] at h
      exact ⟨u, rfl, h⟩
  | get id => cases reply <;> cases h
  | update id r =>
    cases reply with
    | error e => cases h
    | ok u =>
      simp only [Operation.aftermath, List.mem_cons, List.not_mem_nil, or_false, reduceCtorEq,
        false_or, CachedAct.tier.injEq, TierCall.localSet.injEq] at h
      exact ⟨u, rfl, h⟩
  | delete id =>
    cases reply with
    | error e => cases h
    | ok done =>
      simp only [Operation.aftermath, List.mem_cons, List.not_mem_nil, or_false, reduceCtorEq,
        CachedAct.tier.injEq] at h
  | list r => cases reply <;> cases h

/-- A user whom an operation was answered with is what the service behind has after that. -/
theorem get_after_user (hsound : s.behind.store.table.Sound) {read : List CachedStep} (other : Nat)
    {asked : Operation} {u : User}
    (h : asked.user? ((base tableBacking).run asked (frontedAt cache s read).behind).1 = some u) :
    .ok u = ((base tableBacking).run (.get u.id) (frontedAt cache s (read ++
      [Program.stepOf (cachedHandle (base tableBacking) cache) s read other (.base asked)])).behind).1 := by
  have hlive := live_of_user (sound_reached cache hsound read) h
  have hbehind : (frontedAt cache s (read ++
      [Program.stepOf (cachedHandle (base tableBacking) cache) s read other (.base asked)])).behind =
        ((base tableBacking).run asked (frontedAt cache s read).behind).2 := by
    simp only [frontedAt]
    rw [Program.reached_snoc]
    rfl
  rw [base_get, hbehind, hlive]

variable {log : List CachedStep} {m : Nat} {op : Operation} {reply : op.Reply} {id : UserId}

/-- An answer from after a deletion is that there is no such user. -/
theorem gone_of_shown {rule : Program.Rule CachedAct CachedAct.Reply}
    (hsound : s.behind.store.table.Sound)
    (hlawful : Program.Lawful (cachedHandle (base tableBacking) cache) s rule log)
    (hchanged : op.changed reply = true) {answer : Except Failure User}
    (hshown : ShownAfter cache s log ⟨m, .base op, reply⟩ id answer) (hop : op = .delete id) :
    answer = .error (.noUser id) := by
  subst hop
  obtain ⟨made, moment, hmade, hmoment, rfl⟩ := hshown
  have hanswer := eq_of_heq (Step.mk.inj (hlawful made _ (hmade.trans hmoment)).1).2.2
  cases reply with
  | error e => cases hchanged
  | ok done =>
    have hlive : (frontedAt cache s moment).behind.store.table.find? id = none :=
      gone_of_deleted hsound hanswer.symm hmade
    rw [base_get, hlive]

/-- What the cache holds of a user after a change shows the change, or has overtaken it. -/
theorem shown_or_filled_late (hsound : s.behind.store.table.Sound)
    (hlawful : Program.Lawful (cachedHandle (base tableBacking) cache) s
      (SetsFit (RecordsFit cache s)) log)
    (honce : Crowd.stepsOf CachedAct.asks m log ≤ 1) (htarget : op.target? = some id)
    (hchanged : op.changed reply = true) {came done read : List CachedStep} {bytes : ByteArray}
    {u : User}
    (hasked : Asked (base tableBacking) cache s op m came done reply) (hdone : done <+: read)
    (hread : read <+: log)
    (hfind : (frontedAt cache s read).tiers.near.find? (userKey id) = some bytes)
    (hdecode : decodeUser? bytes = some u) :
    ShownAfter cache s log ⟨m, .base op, reply⟩ id (.ok u) ∨
      FilledLate cache s log m op reply id u := by
  obtain ⟨made, -, hreply, htakes⟩ := hasked
  have hstep : Program.stepOf (cachedHandle (base tableBacking) cache) s made m (.base op) =
      ⟨m, .base op, reply⟩ := by
    rw [hreply]
    rfl
  rw [hstep] at htakes
  have hmade : made ++ [⟨m, .base op, reply⟩] <+: log :=
    htakes.prefix.trans (hdone.trans hread)
  -- The change has removed what was cached, so that something was cached since.
  rcases near_reached hfind with hnone | ⟨filled, other, rest, hfill, hrest⟩
  · obtain ⟨early, -, hdelete⟩ := htakes.of_mem (delete_mem_aftermath htarget hchanged)
    have hmem := (hdelete.trans hdone).subset (List.mem_append_right early List.mem_cons_self)
    have hwrites := hnone _ hmem
    simp only [Program.stepOf, CachedAct.writes, decide_true, Bool.true_eq_false] at hwrites
  · have hfilled : filled ++ [⟨other, .tier (.localSet (userKey id) bytes), ()⟩] <+: log := by
      refine List.IsPrefix.trans ?_ hread
      rw [hfill]
      exact ⟨rest, by simp⟩
    by_cases hown : .tier (.localSet (userKey id) bytes) ∈ op.aftermath reply
    · obtain ⟨v, hv, hkey, rfl⟩ := user_of_localSet hown
      rw [decodeUser?_encodeUser] at hdecode
      obtain rfl := Option.some.inj hdecode
      rw [hreply] at hv
      have hshown := get_after_user hsound m hv
      rw [hstep, ← userKey_inj.1 hkey] at hshown
      exact Or.inl ⟨made, _, List.prefix_refl _, hmade, hshown⟩
    · have hbefore : ∀ x ∈ op.aftermath reply, x.writes (userKey id) = true →
          ∃ earlier step, earlier ++ [step] <+: filled ∧ step.who = m ∧ step.action = x := by
        intro x hx hwrite
        obtain ⟨earlier, -, htaken⟩ := htakes.of_mem hx
        have hprefix := htaken.trans hdone
        rw [hfill] at hprefix
        rcases step_split hprefix with hbefore | ⟨-, hsame⟩ | hafter
        · exact ⟨earlier, _, hbefore, rfl, rfl⟩
        · obtain rfl : x = .tier (.localSet (userKey id) bytes) := congrArg Step.action hsame
          exact absurd hx hown
        · have hcontra : x.writes (userKey id) = false := hrest _ hafter
          rw [hwrite] at hcontra
          cases hcontra
      obtain ⟨first, asked, v, hfirst, huser, rfl, rfl⟩ :=
        (hlawful filled _ hfilled).2 _ _ rfl id rfl
      rw [decodeUser?_encodeUser] at hdecode
      obtain rfl := Option.some.inj hdecode
      have hfirst' := hfirst.trans ((List.prefix_append _ _).trans hfilled)
      have hshown : made ++ [⟨m, .base op, reply⟩] <+: first ++ [Program.stepOf
          (cachedHandle (base tableBacking) cache) s first other (.base asked)] →
            ShownAfter cache s log ⟨m, .base op, reply⟩ v.id (.ok v) :=
        fun hmoment => ⟨made, _, hmoment, hfirst', get_after_user hsound other huser⟩
      rcases List.prefix_or_prefix_of_prefix hmade hfirst' with hmoment | hmoment
      · exact Or.inl (hshown hmoment)
      · rcases List.prefix_concat_iff.1 hmoment with heq | hearlier
        · exact Or.inl (hshown (heq ▸ List.prefix_refl _))
        · refine Or.inr ⟨made, first, filled, other, asked, ?_, rfl, hearlier, huser, hmade, hfilled,
            hbefore⟩
          -- The request of the change asked the service behind when it was made, and only then.
          rintro rfl
          have hfirstly := Crowd.stepsOf_mono CachedAct.asks other hearlier
          have hlastly := Crowd.stepsOf_mono CachedAct.asks other hmade
          rw [Crowd.stepsOf_snoc] at hfirstly hlastly
          simp only [Program.stepOf, CachedAct.asks, decide_true, Bool.and_self, Bool.toNat_true]
            at hfirstly hlastly
          omega

end Log

/-! ### Reads -/

/-- However the steps of requests to services in front of a local tier alone are interleaved: a read
that comes once a change or a deletion of the user has been answered is answered, as soon as it has had
nine turns, with what the service behind has at some moment after the change, which is nothing after a
deletion; or else the change was overtaken, and the answer is the record that overtook it. -/
theorem read_shows_change {cache : Layered ρ} (halone : cache.remote = none) {s : Fronted ρ}
    (hsound : s.behind.store.table.Sound) {before : List (Move Operation)}
    (since : List (Move Operation)) {m : Nat} {op : Operation} {reply : op.Reply} {id : UserId}
    (htarget : op.target? = some id)
    (hdone : (sideBySide (base tableBacking) cache before s).answer? m = some ⟨op, reply⟩)
    (hchanged : op.changed reply = true) :
    (9 ≤ since.countP
        (Move.isTurn (sideBySide (base tableBacking) cache before s).errands.length) →
      ((sideBySide (base tableBacking) cache (before ++ .come (.get id) :: since) s).answer?
        (sideBySide (base tableBacking) cache before s).errands.length).isSome = true) ∧
    ∀ a, (sideBySide (base tableBacking) cache (before ++ .come (.get id) :: since) s).answer?
        (sideBySide (base tableBacking) cache before s).errands.length = some a →
      ∃ answer, a = ⟨.get id, answer⟩ ∧
        (ShownAfter cache s
            (sideBySide (base tableBacking) cache (before ++ .come (.get id) :: since) s).log
            ⟨m, .base op, reply⟩ id answer ∧
          (op = .delete id → answer = .error (.noUser id)) ∨
        ∃ u, answer = .ok u ∧ FilledLate cache s
          (sideBySide (base tableBacking) cache (before ++ .come (.get id) :: since) s).log
          m op reply id u) := by
  have hrecalls : cache.Recalls (fun _ => True) fun _ _ _ => False := by
    intro r hr
    rw [halone] at hr
    cases hr
  have hfit := records_fitting (s := s) halone fun _ _ _ => False
  have hbefore := sideBySide_orderly hrecalls trivial hfit before
  have horderly := sideBySide_orderly hrecalls trivial hfit (before ++ .come (.get id) :: since)
  have hlog := (errands_sideBySide (base tableBacking) cache s before since (.get id)).1
  refine ⟨fun hturns => ?_, fun a ha => ?_⟩
  · obtain ⟨answer, hanswer⟩ := answered_sideBySide (base tableBacking) cache s before (.get id) hturns
    rw [hanswer]
    rfl
  · obtain ⟨answer, rfl, hcourse⟩ := course_of_answer horderly ha
    obtain ⟨came, -, -, hchange⟩ := hbefore.post_of_answer hdone
    have hasked := asked_of_changed hchange hchanged
    refine ⟨answer, rfl, ?_⟩
    have hshown : ShownAfter cache s
        (sideBySide (base tableBacking) cache (before ++ .come (.get id) :: since) s).log
        ⟨m, .base op, reply⟩ id answer ∨
          ∃ u, answer = .ok u ∧ FilledLate cache s
            (sideBySide (base tableBacking) cache (before ++ .come (.get id) :: since) s).log
            m op reply id u := by
      rcases hcourse with
        ⟨bytes, u, ⟨read, hread, hfinal, hknown⟩, hdecode, rfl⟩ | ⟨read, hread, hanswer, htakes⟩
      · have hfind : (frontedAt cache s read).tiers.near.find? (userKey id) = some bytes :=
          hknown.resolve_right fun hsent => hsent.2
        exact (shown_or_filled_late hsound horderly.lawful (asks_once _ m) htarget hchanged hasked
          hread hfinal hfind hdecode).imp (fun h => h) fun hlate => ⟨u, rfl, hlate⟩
      · obtain ⟨made, -, hreply, htaken⟩ := hasked
        have hstep : Program.stepOf (cachedHandle (base tableBacking) cache) s made m (.base op) =
            ⟨m, .base op, reply⟩ := by
          rw [hreply]
          rfl
        rw [hstep] at htaken
        refine Or.inl ⟨made, read, htaken.prefix.trans hread, ?_, hanswer⟩
        exact (List.prefix_append _ _).trans htakes.prefix
    rcases hshown with hshown | hlate
    · exact Or.inl ⟨hshown, gone_of_shown hsound horderly.lawful hchanged hshown⟩
    · exact Or.inr hlate

/-- The user of a trial. -/
def trialSubject : UserId := .inSeries 0

/-- A cache for the trial. -/
def trialNear : Layered Unit := .alone ⟨15⟩ ⟨15⟩

/-- The state that the trial starts from: there is one user, and nothing is cached. -/
def trialDirectory : Fronted Unit :=
  ⟨((base tableBacking).run (.create ⟨"Jude", "jude@x.com"⟩) ⟨.empty, .still⟩).2, .first,
    Layered.start (.ofSizing ⟨1500, 15, 1⟩) ()⟩

/-- The moves of the trial: a read gets the user from the service behind, and a deletion is answered. -/
def trialDeleting : List (Move Operation) :=
  .come (.get trialSubject) :: List.replicate 3 (.turn 0) ++
    .come (.delete trialSubject) :: List.replicate 3 (.turn 1)

/-- The moves after these: the first read caches the user, and another read is answered. -/
def trialReading : List (Move Operation) := .turn 0 :: List.replicate 9 (.turn 2)

theorem trial_deleted :
    (sideBySide (base tableBacking) trialNear trialDeleting trialDirectory).answer? 1 =
      some ⟨.delete trialSubject, .ok ()⟩ := rfl

theorem read_shows_change_in_trial :
    ∃ answer, (sideBySide (base tableBacking) trialNear
        (trialDeleting ++ .come (.get trialSubject) :: trialReading) trialDirectory).answer? 2 =
          some ⟨.get trialSubject, answer⟩ ∧
      (answer = .error (.noUser trialSubject) ∨ ∃ u, answer = .ok u ∧
        FilledLate trialNear trialDirectory (sideBySide (base tableBacking) trialNear
          (trialDeleting ++ .come (.get trialSubject) :: trialReading) trialDirectory).log
          1 (.delete trialSubject) (.ok ()) trialSubject u) := by
  have halone : trialNear.remote = none := rfl
  have hsound : trialDirectory.behind.store.table.Sound := base_sound Table.sound_nil _
  obtain ⟨hanswered, hshows⟩ := read_shows_change halone hsound trialReading rfl
    trial_deleted rfl
  have hnumber : (sideBySide (base tableBacking) trialNear trialDeleting
      trialDirectory).errands.length = 2 := by decide +kernel
  have hturns : 9 ≤ trialReading.countP (Move.isTurn 2) := by decide
  rw [hnumber] at hanswered hshows
  obtain ⟨a, ha⟩ := Option.isSome_iff_exists.1 (hanswered hturns)
  obtain ⟨answer, rfl, hanswer⟩ := hshows a ha
  exact ⟨answer, ha, hanswer.imp (fun hshown => hshown.2 rfl) fun hlate => hlate⟩

/-- A read has got a user from the service behind, the user is deleted and the deletion is answered, and
the read caches the user only then: whoever reads the user next is answered with the deleted record. -/
theorem deleted_user_read_late :
    (sideBySide (base tableBacking) trialNear trialDeleting trialDirectory).answer? 1 =
        some ⟨.delete trialSubject, .ok ()⟩ ∧
      ((base tableBacking).run (.get trialSubject) (sideBySide (base tableBacking) trialNear
        (trialDeleting ++ .come (.get trialSubject) :: trialReading) trialDirectory).state.behind).1 =
          .error (.noUser trialSubject) ∧
      ∃ u, (sideBySide (base tableBacking) trialNear
        (trialDeleting ++ .come (.get trialSubject) :: trialReading) trialDirectory).answer? 2 =
          some ⟨.get trialSubject, .ok u⟩ := by
  have hrun : ((base tableBacking).run (.get trialSubject) (sideBySide (base tableBacking) trialNear
        (trialDeleting ++ .come (.get trialSubject) :: trialReading) trialDirectory).state.behind).1 =
          .error (.noUser trialSubject) ∧
      ((sideBySide (base tableBacking) trialNear
        (trialDeleting ++ .come (.get trialSubject) :: trialReading) trialDirectory).answer? 2).any
          (fun a => a.1 = .get trialSubject && (a.1.user? a.2).isSome) = true := by decide +kernel
  obtain ⟨hgone, hread⟩ := hrun
  refine ⟨trial_deleted, hgone, ?_⟩
  obtain ⟨⟨op, reply⟩, hanswer, hfound⟩ := (Option.any_eq_true _ _).1 hread
  obtain ⟨hop, huser⟩ := Bool.and_eq_true_iff.1 hfound
  obtain rfl : op = .get trialSubject := of_decide_eq_true hop
  cases reply with
  | error e => cases huser
  | ok u => exact ⟨u, hanswer⟩

end Roster.Service
