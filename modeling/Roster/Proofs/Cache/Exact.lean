import Roster.Proofs.Cache.Calls
import Roster.Proofs.Cache.Shared

/-!
# A cache in front of a map is a map

If the remote tier is a map that never fails, then so is the cache: whatever the local tier refuses,
evicts or has not yet taken account of, a lookup answers with the value that was set last.

* `CacheCall.onMap` says what a call does to a map from keys to values, and `CacheCall.Latest` which
  value was set last under a key; `after_onMap_eq_some` joins them.
* `Layered.Mirrors` says that the tiers show just what a map has. `Mirrors.step` is one call, and
  `Mirrors.run` and `Mirrors.after` any number of them.
* `lookups_find_latest` is about a cache of which both tiers are empty.
-/

namespace Roster.Cache

variable {ρ : Type}

/-! ### Calls on a map -/

namespace CacheCall

/-- What a call does to a map from keys to values. -/
def onMap : Program.Handler CacheCall CacheCall.Reply (String → Option ByteArray)
  | .get key, m => (m key, m)
  | .set key value, m => ((), fun k => if key = k then some value else m k)
  | .delete key, m => ((), fun k => if key = k then none else m k)
  | .flush, m => ((), m)

/-- Whether a call sets or removes the value under a key. -/
def writes (key : String) : CacheCall → Bool
  | .set k _ => k = key
  | .delete k => k = key
  | _ => false

/-- Among the calls one has set the value under the key, and no later one has set it anew or removed
it. -/
def Latest (key : String) (value : ByteArray) (calls : List CacheCall) : Prop :=
  ∃ before since, calls = before ++ .set key value :: since ∧
    ∀ call ∈ since, call.writes key = false

theorem latest_cons {key : String} {value : ByteArray} {call : CacheCall} {calls : List CacheCall} :
    Latest key value (call :: calls) ↔ Latest key value calls ∨
      call = .set key value ∧ ∀ later ∈ calls, later.writes key = false := by
  constructor
  · rintro ⟨before, since, heq, hsince⟩
    cases before with
    | nil =>
      obtain ⟨rfl, rfl⟩ := List.cons.inj heq
      exact Or.inr ⟨rfl, hsince⟩
    | cons first before =>
      obtain ⟨-, hcalls⟩ := List.cons.inj heq
      exact Or.inl ⟨before, since, hcalls, hsince⟩
  · rintro (⟨before, since, rfl, hsince⟩ | ⟨rfl, hsince⟩)
    · exact ⟨call :: before, since, rfl, hsince⟩
    · exact ⟨[], calls, rfl, hsince⟩

/-- After a call a key has the value that the call has set, or the one that it had before if the call
does not write it. -/
theorem onMap_eq_some (call : CacheCall) (m : String → Option ByteArray) (key : String)
    (value : ByteArray) : (onMap call m).2 key = some value ↔
      call = .set key value ∨ m key = some value ∧ call.writes key = false := by
  cases call with
  | get k => simp [onMap, writes]
  | set k v =>
    by_cases hk : k = key
    · simp [onMap, writes, hk]
    · simp [onMap, writes, hk]
  | delete k =>
    by_cases hk : k = key
    · simp [onMap, writes, hk]
    · simp [onMap, writes, hk]
  | flush => simp [onMap, writes]

/-- After any calls a key has the value that was set last, or the one that it had at first if no call
writes it. -/
theorem after_onMap_eq_some (calls : List CacheCall) (m : String → Option ByteArray) (key : String)
    (value : ByteArray) : Program.after onMap calls m key = some value ↔
      Latest key value calls ∨ m key = some value ∧ ∀ call ∈ calls, call.writes key = false := by
  induction calls generalizing m with
  | nil => simp [Program.after, Latest]
  | cons call calls ih =>
    rw [Program.after, ih, onMap_eq_some, latest_cons, List.forall_mem_cons, or_and_right,
      or_assoc, and_assoc]

end CacheCall

/-! ### Calls on a cache -/

namespace Layered

/-- What can be found in the tiers is, under every key, just what a map has. -/
structure Mirrors (may : ρ → Prop) (view : ρ → String → Option ByteArray)
    (m : String → Option ByteArray) (s : Tiers ρ) : Prop where
  may_far : may s.far
  shows (key : String) : Shows view key (m key) s

/-- Tiers without entries mirror an empty map. -/
theorem mirrors_start {may : ρ → Prop} {view : ρ → String → Option ByteArray} {far : ρ}
    (hfar : may far) (hempty : ∀ key, view far key = none) (sizing : Sizing) :
    Mirrors may view (fun _ => none) (start (.ofSizing sizing) far) where
  may_far := hfar
  shows key := by
    refine ⟨hempty key, fun {value} hnear => ?_⟩
    have hnone : (Local.ofSizing sizing).find? key = none := Local.find?_of_no_entries rfl key
    rw [show (start (Local.ofSizing sizing) far).near = Local.ofSizing sizing from rfl, hnone] at hnear
    cases hnear

/-- The map that the tiers mirror is what the remote tier holds. -/
theorem Mirrors.view_eq {may : ρ → Prop} {view : ρ → String → Option ByteArray}
    {m : String → Option ByteArray} {s : Tiers ρ} (hm : Mirrors may view m s) : view s.far = m :=
  funext fun key => (hm.shows key).far

section

variable {c : Layered ρ} {may : ρ → Prop} {view : ρ → String → Option ByteArray}
  (h : c.Faithful may view) (hremote : c.hasRemote = true)

include h hremote

/-- A call is answered as by the map, and afterwards the tiers mirror the map again. -/
theorem Mirrors.step {m : String → Option ByteArray} {s : Tiers ρ} (hm : Mirrors may view m s)
    (call : CacheCall) : (c.perform call s).1 = (call.onMap m).1 ∧
      Mirrors may view (call.onMap m).2 (c.perform call s).2 := by
  cases call with
  | get key =>
    refine ⟨(hm.shows key).get_fst h hremote hm.may_far, h.tracked.may_get key hm.may_far, ?_⟩
    intro k
    exact (hm.shows k).get h hremote hm.may_far
  | set key value =>
    refine ⟨rfl, h.tracked.may_set key value hm.may_far, fun k => ?_⟩
    show Shows view k (if key = k then some value else m k) (c.set key value s)
    by_cases hk : key = k
    · rw [if_pos hk, ← hk]
      exact Shows.set h hremote hm.may_far value
    · rw [if_neg hk]
      exact (hm.shows k).set_other h hremote hm.may_far hk value
  | delete key =>
    refine ⟨rfl, h.tracked.may_delete key hm.may_far, fun k => ?_⟩
    show Shows view k (if key = k then none else m k) (c.delete key s)
    by_cases hk : key = k
    · rw [if_pos hk, ← hk]
      exact Shows.delete h hremote hm.may_far
    · rw [if_neg hk]
      exact (hm.shows k).delete_other h hremote hm.may_far hk
  | flush => exact ⟨rfl, hm.may_far, fun k => (hm.shows k).maintain⟩

/-- Any calls are answered as by the map. -/
theorem Mirrors.run (calls : List CacheCall) {m : String → Option ByteArray} {s : Tiers ρ}
    (hm : Mirrors may view m s) :
    Program.answers c.perform calls s = Program.answers CacheCall.onMap calls m := by
  induction calls generalizing m s with
  | nil => rfl
  | cons call calls ih =>
    obtain ⟨hreply, hnext⟩ := hm.step h hremote call
    rw [Program.answers, Program.answers, hreply, ih hnext]

/-- After any calls the tiers mirror what the calls have made of the map. -/
theorem Mirrors.after (calls : List CacheCall) {m : String → Option ByteArray} {s : Tiers ρ}
    (hm : Mirrors may view m s) : Mirrors may view (Program.after CacheCall.onMap calls m)
      (Program.after c.perform calls s) := by
  induction calls generalizing m s with
  | nil => exact hm
  | cons call calls ih => exact ih (hm.step h hremote call).2

end

/-- **A cache in front of a map is a map.**  Let the remote tier be a map that always answers in time
and forgets nothing, and let both tiers start without entries. Then any lookups, writes, removals and
maintenance, whatever the size of the local tier, are answered as by a map; and in the run every lookup
finds the value that was set last under its key and not removed since, and nothing if there is none. -/
theorem lookups_find_latest {c : Layered ρ} {may : ρ → Prop} {view : ρ → String → Option ByteArray}
    (h : c.Faithful may view) (hremote : c.hasRemote = true) {far : ρ} (hfar : may far)
    (hempty : ∀ key, view far key = none) (sizing : Sizing) (calls : List CacheCall) :
    Program.answers c.perform calls (start (.ofSizing sizing) far) =
        Program.answers CacheCall.onMap calls (fun _ => none) ∧
      ∀ before key since, calls = before ++ .get key :: since →
        ∃ reply : Option ByteArray,
          (Program.answers c.perform calls (start (.ofSizing sizing) far))[before.length]? =
            some ⟨.get key, reply⟩ ∧
          ∀ value, reply = some value ↔ CacheCall.Latest key value before := by
  have hrun := (mirrors_start hfar hempty sizing).run h hremote calls
  refine ⟨hrun, ?_⟩
  intro before key since hcalls
  refine ⟨Program.after CacheCall.onMap before (fun _ => none) key, ?_, fun value => ?_⟩
  · have hlength : (Program.answers CacheCall.onMap before fun _ => none).length = before.length :=
      Program.length_answers _ _ _
    rw [hrun, hcalls, Program.answers_append, List.getElem?_append_right (Nat.le_of_eq hlength),
      hlength, Nat.sub_self]
    rfl
  · rw [CacheCall.after_onMap_eq_some]
    simp

/-- A value that has no place in the local tier of the trial. -/
def largeValue : ByteArray := ⟨#[1, 2, 3]⟩

/-- A value that has a place there, but only as long as no other has. -/
def smallValue : ByteArray := ⟨#[4]⟩

/-- Calls for a trial with a local tier of one byte. -/
def trialLookups : List CacheCall :=
  [.set "a" largeValue, .get "a", .set "a" smallValue, .set "b" smallValue, .flush, .get "a", .get "b",
    .delete "a", .get "a"]

theorem lookups_find_latest_in_trial :
    Program.answers (Simulated.layered ⟨0⟩ ⟨0⟩).perform trialLookups
        (start (.ofSizing ⟨1, 10, 1⟩) (.ofBehaviour .map)) =
      [⟨.set "a" largeValue, ()⟩, ⟨.get "a", some largeValue⟩, ⟨.set "a" smallValue, ()⟩,
        ⟨.set "b" smallValue, ()⟩, ⟨.flush, ()⟩, ⟨.get "a", some smallValue⟩,
        ⟨.get "b", some smallValue⟩, ⟨.delete "a", ()⟩, ⟨.get "a", none⟩] :=
  (lookups_find_latest (Simulated.layered_faithful ⟨0⟩ ⟨0⟩) rfl rfl (fun _ => rfl) ⟨1, 10, 1⟩
    trialLookups).1

end Layered

end Roster.Cache
