import Roster.Proofs.Cache.Unusable
import Roster.Proofs.Service.Requests

/-!
# A service whose remote tier is of no use

What a service with a cache answers depends on the cache only through the answers of the cache. So where
the remote tier is of no use, it makes no difference whether it is missing, is always empty, or always
fails.

* `Matches` says that two caches answer alike as long as their tiers are related, and `answers_alike`
  that the services with these caches then answer alike.
* `unusable_remote_is_none` compares all three cases, for the cache and for the service.
-/

namespace Roster.Service

open Roster.Cache Roster.Number

variable {α σ ρ ρ' : Type}

/-! ### Two caches -/

/-- Two caches answer lookups alike in related states of their tiers, and every operation leaves the
tiers related. -/
structure Matches (c : Layered ρ) (c' : Layered ρ') (R : Tiers ρ → Tiers ρ' → Prop) : Prop where
  get {t : Tiers ρ} {t' : Tiers ρ'} (key : String) : R t t' →
    (c.get key t).1 = (c'.get key t').1 ∧ R (c.get key t).2 (c'.get key t').2
  set {t : Tiers ρ} {t' : Tiers ρ'} (key : String) (value : ByteArray) : R t t' →
    R (c.set key value t) (c'.set key value t')
  delete {t : Tiers ρ} {t' : Tiers ρ'} (key : String) : R t t' →
    R (c.delete key t) (c'.delete key t')

/-- Two services have the same behind them and the same generation, and their tiers are related. -/
structure Alike (R : Tiers ρ → Tiers ρ' → Prop) (s : CachedState σ ρ) (s' : CachedState σ ρ') :
    Prop where
  behind : s.behind = s'.behind
  generation : s.generation = s'.generation
  tiers : R s.tiers s'.tiers

/-- Two answers are the same, and the states that go with them are alike. -/
structure AnswersAlike {β : Type} (R : Tiers ρ → Tiers ρ' → Prop) (a : β × CachedState σ ρ)
    (a' : β × CachedState σ ρ') : Prop where
  answer : a.1 = a'.1
  state : Alike R a.2 a'.2

section Matches

variable (behind : UserService σ) {c : Layered ρ} {c' : Layered ρ'} {R : Tiers ρ → Tiers ρ' → Prop}
  (h : Matches c c' R) {s : CachedState σ ρ} {s' : CachedState σ ρ'} (ha : Alike R s s')

include h ha

theorem create_alike (r : CreateRequest) :
    AnswersAlike R ((cached behind c).run (.create r) s) ((cached behind c').run (.create r) s') := by
  rw [cached_create, cached_create, ha.behind]
  rcases behind.run (.create r) s'.behind with ⟨e | u, b⟩
  · exact ⟨rfl, ⟨rfl, ha.generation, ha.tiers⟩⟩
  · exact ⟨rfl, ⟨rfl, congrArg Generation.bump ha.generation, h.set _ _ ha.tiers⟩⟩

theorem get_alike (id : UserId) :
    AnswersAlike R ((cached behind c).run (.get id) s) ((cached behind c').run (.get id) s') := by
  obtain ⟨hanswer, htiers⟩ := h.get (userKey id) ha.tiers
  rw [cached_get, cached_get, ha.behind, hanswer]
  cases (c'.get (userKey id) s'.tiers).1.bind decodeUser? with
  | some u => exact ⟨rfl, ⟨rfl, ha.generation, htiers⟩⟩
  | none =>
    rcases behind.run (.get id) s'.behind with ⟨e | u, b⟩
    · exact ⟨rfl, ⟨rfl, ha.generation, htiers⟩⟩
    · exact ⟨rfl, ⟨rfl, ha.generation, h.set _ _ htiers⟩⟩

theorem update_alike (id : UserId) (r : UpdateRequest) :
    AnswersAlike R ((cached behind c).run (.update id r) s)
      ((cached behind c').run (.update id r) s') := by
  rw [cached_update, cached_update, ha.behind]
  rcases behind.run (.update id r) s'.behind with ⟨e | u, b⟩
  · exact ⟨rfl, ⟨rfl, ha.generation, ha.tiers⟩⟩
  · refine ⟨rfl, ⟨rfl, congrArg Generation.bump ha.generation, ?_⟩⟩
    exact h.set _ _ (h.delete _ ha.tiers)

theorem delete_alike (id : UserId) :
    AnswersAlike R ((cached behind c).run (.delete id) s) ((cached behind c').run (.delete id) s') := by
  rw [cached_delete, cached_delete, ha.behind]
  rcases behind.run (.delete id) s'.behind with ⟨e | u, b⟩
  · exact ⟨rfl, ⟨rfl, ha.generation, ha.tiers⟩⟩
  · exact ⟨rfl, ⟨rfl, congrArg Generation.bump ha.generation, h.delete _ ha.tiers⟩⟩

theorem list_alike (r : PageRequest) :
    AnswersAlike R ((cached behind c).run (.list r) s) ((cached behind c').run (.list r) s') := by
  obtain ⟨hanswer, htiers⟩ := h.get (pageKey s'.generation.current r) ha.tiers
  rw [cached_list, cached_list, ha.behind, ha.generation, hanswer]
  cases (c'.get (pageKey s'.generation.current r) s'.tiers).1.bind fun bytes =>
      (decodeBundle? bytes).map (·.page r) with
  | some p => exact ⟨rfl, ⟨rfl, rfl, htiers⟩⟩
  | none =>
    rcases behind.run (.list r) s'.behind with ⟨e | p, b⟩
    · exact ⟨rfl, ⟨rfl, rfl, htiers⟩⟩
    · exact ⟨rfl, ⟨rfl, rfl, h.set _ _ htiers⟩⟩

/-- A request is answered alike. -/
theorem answer_alike (q : Request α) :
    AnswersAlike R ((cached behind c).answer q s) ((cached behind c').answer q s') := by
  cases q with
  | operation op =>
    cases op with
    | create r => exact create_alike behind h ha r
    | get id => exact get_alike behind h ha id
    | update id r => exact update_alike behind h ha id r
    | delete id => exact delete_alike behind h ha id
    | list r => exact list_alike behind h ha r
  | transaction body =>
    show AnswersAlike R ((behind.transact body s.behind).1, _) ((behind.transact body s'.behind).1, _)
    rw [ha.behind]
    exact ⟨rfl, ⟨rfl, ha.generation, ha.tiers⟩⟩

/-- Any requests are answered alike. -/
theorem answers_alike (requests : List (Request α)) :
    Program.answers (cached behind c).answer requests s =
      Program.answers (cached behind c').answer requests s' := by
  induction requests generalizing s s' with
  | nil => rfl
  | cons q requests ih =>
    obtain ⟨hanswer, hstate⟩ := answer_alike behind h ha q
    rw [Program.answers, Program.answers, hanswer, ih hstate]

end Matches

/-! ### Remote tiers that are of no use -/

/-- Two caches whose remote tiers are of no use match as long as their local tiers are the same. -/
theorem matches_of_unusable {c : Layered ρ} {may : ρ → Prop} {troubled : Bool}
    (h : c.Unusable may troubled) {c' : Layered ρ'} {may' : ρ' → Prop} {troubled' : Bool}
    (h' : c'.Unusable may' troubled') :
    Matches c c' fun t t' => t.near = t'.near ∧ may t.far ∧ may' t'.far where
  get {t t'} key ht := by
    obtain ⟨hnear, hs, hs'⟩ := ht
    obtain ⟨far, hmay, hget⟩ := h.get_alone key hs
    obtain ⟨far', hmay', hget'⟩ := h'.get_alone key hs'
    rw [hget, hget', hnear]
    exact ⟨rfl, rfl, hmay, hmay'⟩
  set {t t'} key value ht := by
    obtain ⟨hnear, hs, hs'⟩ := ht
    obtain ⟨far, hmay, hset⟩ := h.set_alone key value hs
    obtain ⟨far', hmay', hset'⟩ := h'.set_alone key value hs'
    rw [hset, hset', hnear]
    exact ⟨rfl, hmay, hmay'⟩
  delete {t t'} key ht := by
    obtain ⟨hnear, hs, hs'⟩ := ht
    obtain ⟨far, hmay, hdelete⟩ := h.delete_alone key hs
    obtain ⟨far', hmay', hdelete'⟩ := h'.delete_alone key hs'
    rw [hdelete, hdelete', hnear]
    exact ⟨rfl, hmay, hmay'⟩

/-- A cache without a remote tier, one whose remote tier never has anything, and one whose remote tier
fails at every call, each in its own way, answer any calls alike from the same local tier, and leave it
in the same state. They count the same, except that the third counts an error for every write and for
every lookup that missed. So the services with these caches answer any requests alike. -/
theorem unusable_remote_is_none {ρ₀ ρ₁ ρ₂ : Type} {c₀ : Layered ρ₀} (hnone : c₀.remote = none)
    {c₁ : Layered ρ₁} {r₁ : Slow ρ₁} (hremote₁ : c₁.remote = some r₁) {may₁ : ρ₁ → Prop}
    (hmiss : (r₁.within c₁.timeout).Misses may₁) {c₂ : Layered ρ₂} {r₂ : Slow ρ₂}
    (hremote₂ : c₂.remote = some r₂) {may₂ : ρ₂ → Prop} (hfail : r₂.Fails c₂.timeout may₂)
    (near : Local) (far₀ : ρ₀) {far₁ : ρ₁} (hfar₁ : may₁ far₁) {far₂ : ρ₂} (hfar₂ : may₂ far₂) :
    (∀ calls : List CacheCall,
      Program.answers c₁.perform calls (Layered.start near far₁) =
          Program.answers c₀.perform calls (Layered.start near far₀) ∧
        Program.answers c₂.perform calls (Layered.start near far₂) =
          Program.answers c₀.perform calls (Layered.start near far₀) ∧
        (Program.after c₁.perform calls (Layered.start near far₁)).near =
          (Program.after c₀.perform calls (Layered.start near far₀)).near ∧
        (Program.after c₂.perform calls (Layered.start near far₂)).near =
          (Program.after c₀.perform calls (Layered.start near far₀)).near ∧
        (Program.after c₀.perform calls (Layered.start near far₀)).stats.remoteErrors = 0 ∧
        (Program.after c₁.perform calls (Layered.start near far₁)).stats =
          (Program.after c₀.perform calls (Layered.start near far₀)).stats ∧
        (Program.after c₂.perform calls (Layered.start near far₂)).stats =
          { (Program.after c₀.perform calls (Layered.start near far₀)).stats with
            remoteErrors := (Program.answers c₀.perform calls (Layered.start near far₀)).countP
              fun a => a.1.goesFar a.2 }) ∧
      ∀ {σ α : Type} (behind : UserService σ) (b : σ) (g : Generation) (requests : List (Request α)),
        Program.answers (cached behind c₁).answer requests ⟨b, g, Layered.start near far₁⟩ =
            Program.answers (cached behind c₀).answer requests ⟨b, g, Layered.start near far₀⟩ ∧
          Program.answers (cached behind c₂).answer requests ⟨b, g, Layered.start near far₂⟩ =
            Program.answers (cached behind c₀).answer requests ⟨b, g, Layered.start near far₀⟩ := by
  have h₀ := Layered.unusable_of_none hnone
  have h₁ := Layered.unusable_of_misses hremote₁ hmiss
  have h₂ := Layered.unusable_of_fails hremote₂ hfail
  refine ⟨fun calls => ?_, fun behind b g requests => ⟨?_, ?_⟩⟩
  · obtain ⟨hanswers₀, hnear₀, hstats₀⟩ := h₀.run (s := Layered.start near far₀) trivial calls
    obtain ⟨hanswers₁, hnear₁, hstats₁⟩ := h₁.run (s := Layered.start near far₁) hfar₁ calls
    obtain ⟨hanswers₂, hnear₂, hstats₂⟩ := h₂.run (s := Layered.start near far₂) hfar₂ calls
    rw [hanswers₀, hanswers₁, hanswers₂, hnear₀, hnear₁, hnear₂, hstats₀, hstats₁, hstats₂]
    refine ⟨rfl, rfl, rfl, rfl, rfl, rfl, ?_⟩
    simp [Layered.counted, Layered.start]
  · exact answers_alike behind (matches_of_unusable h₁ h₀) ⟨rfl, rfl, rfl, hfar₁, trivial⟩ requests
  · exact answers_alike behind (matches_of_unusable h₂ h₀) ⟨rfl, rfl, rfl, hfar₂, trivial⟩ requests

/-- Troubles for a trial: at every other call the tier cannot be reached, and the others are given up. -/
def trialTroubles (n : Nat) : Fate :=
  if n % 2 = 0 then .fails (.unavailable "no route") else .late none

theorem trialTroubles_hopeless (n : Nat) : (trialTroubles n).Hopeless := by
  simp only [trialTroubles]
  split
  · exact Trouble.noConfusion
  · trivial

/-- Calls for a trial: of three lookups one finds something. -/
def trialCalls : List CacheCall :=
  [.set "a" (encodeBundle ⟨[], 0⟩), .get "a", .get "b", .delete "a", .flush, .get "a"]

theorem unusable_remote_is_none_in_trial :
    Program.answers (Wayward.layered ⟨0⟩ ⟨0⟩).perform trialCalls
          (Layered.start (.ofSizing ⟨100, 1000, 1⟩) (.ofFates trialTroubles)) =
        Program.answers (Layered.alone ⟨0⟩ ⟨0⟩).perform trialCalls
          (Layered.start (.ofSizing ⟨100, 1000, 1⟩) ()) ∧
      (Program.after (Wayward.layered ⟨0⟩ ⟨0⟩).perform trialCalls
        (Layered.start (.ofSizing ⟨100, 1000, 1⟩) (.ofFates trialTroubles))).stats.remoteErrors = 4 := by
  have hnone : (Layered.alone ⟨0⟩ ⟨0⟩).remote = none := rfl
  have hempty : (Simulated.layered ⟨0⟩ ⟨0⟩).remote = some Simulated.tier := rfl
  have hwayward : (Wayward.layered ⟨0⟩ ⟨0⟩).remote = some Wayward.remote := rfl
  have hstart : (Simulated.ofBehaviour .empty).behaviour = .empty := rfl
  have hfates : ∀ n, ((Wayward.ofFates trialTroubles).fates n).Hopeless := trialTroubles_hopeless
  obtain ⟨-, hanswers, -, -, -, -, hstats⟩ := (unusable_remote_is_none hnone hempty (Simulated.misses _)
    hwayward (Wayward.remote_fails _) (.ofSizing ⟨100, 1000, 1⟩) () hstart hfates).1 trialCalls
  refine ⟨hanswers, ?_⟩
  rw [hstats]
  decide +kernel

end Roster.Service
