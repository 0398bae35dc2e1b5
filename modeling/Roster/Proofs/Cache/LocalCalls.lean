import Mathlib.Data.List.Induction
import Roster.Program
import Roster.Proofs.Cache.LocalTier

/-!
# Calls on the local tier

The operations of the local tier as data, each value with a cost of its own, and what a run of them can
find: the value that was set last under a key and not removed since, or nothing.

* `Local.respond` says what a call does, and `LocalCall.Latest` which value was set last under a key.
* `entry_of_respond` says where an entry after one call comes from, and `entry_latest` that after any
  calls every entry is what was set last.
* `lookups_never_stale` says it of every lookup in a run.
-/

namespace Roster.Cache

/-! ### Calls -/

/-- A call on a local tier: one of its operations, or maintenance. -/
inductive LocalCall where
  | get (key : String)
  | set (key : String) (value : ByteArray) (cost : Nat)
  | delete (key : String)
  | flush

namespace LocalCall

/-- What a call answers. -/
abbrev Reply : LocalCall → Type
  | .get _ => Option ByteArray
  | _ => Unit

/-- Whether a call sets or removes the value under a key. -/
def writes (key : String) : LocalCall → Bool
  | .set k _ _ => k = key
  | .delete k => k = key
  | _ => false

/-- Whether a call sets the value under a key. -/
def sets (key : String) : LocalCall → Bool
  | .set k _ _ => k = key
  | _ => false

/-- Whether a call sets a value. -/
def isSet : LocalCall → Bool
  | .set _ _ _ => true
  | _ => false

/-- A call after others ends in maintenance: it asks for it, or sets a value and it is time. -/
def Maintains (sizing : Sizing) (calls : List LocalCall) : LocalCall → Prop
  | .set _ _ _ => (calls.countP isSet + 1) % max 1 sizing.bufferItems = 0
  | .flush => True
  | _ => False

/-- Among the calls one has set the value under the key at this cost, and no later one has set it anew
or removed it. -/
def Latest (key : String) (value : ByteArray) (cost : Nat) (calls : List LocalCall) : Prop :=
  ∃ before since, calls = before ++ .set key value cost :: since ∧
    ∀ call ∈ since, call.writes key = false

theorem Latest.now (key : String) (value : ByteArray) (cost : Nat) (calls : List LocalCall) :
    Latest key value cost (calls ++ [.set key value cost]) :=
  ⟨calls, [], rfl, fun _ h => nomatch h⟩

theorem Latest.concat {key : String} {value : ByteArray} {cost : Nat} {calls : List LocalCall}
    (h : Latest key value cost calls) {call : LocalCall} (hcall : call.writes key = false) :
    Latest key value cost (calls ++ [call]) := by
  obtain ⟨before, since, rfl, hsince⟩ := h
  refine ⟨before, since ++ [call], by simp, fun later hlater => ?_⟩
  rcases List.mem_append.1 hlater with hmem | hmem
  · exact hsince later hmem
  · rw [List.mem_singleton.1 hmem]
    exact hcall

/-- What was set last is not found in any calls after which the key is not set again. -/
theorem Latest.sets_since {key : String} {value : ByteArray} {cost : Nat} {before since : List LocalCall}
    {call : LocalCall} (h : Latest key value cost (before ++ call :: since))
    (hcall : call.writes key = true) (hsince : ∀ later ∈ since, later.sets key = false) :
    call = .set key value cost := by
  obtain ⟨earlier, later, heq, hlater⟩ := h
  rcases List.append_eq_append_iff.1 heq with ⟨mid, rfl, hmid⟩ | ⟨mid, rfl, hmid⟩
  · cases mid with
    | nil =>
      obtain ⟨rfl, -⟩ := List.cons.inj hmid
      rfl
    | cons first mid =>
      obtain ⟨rfl, rfl⟩ := List.cons.inj hmid
      have hset := hsince (.set key value cost) (by simp)
      simp [sets] at hset
  · cases mid with
    | nil =>
      obtain ⟨rfl, -⟩ := List.cons.inj hmid
      rfl
    | cons first mid =>
      obtain ⟨rfl, rfl⟩ := List.cons.inj hmid
      rw [hlater call (by simp)] at hcall
      cases hcall

end LocalCall

namespace Local

/-- What a call does to a local tier. -/
def respond : Program.Handler LocalCall LocalCall.Reply Local
  | .get key, c => c.get key
  | .set key value cost, c => ((), c.set key value cost)
  | .delete key, c => ((), c.delete key)
  | .flush, c => ((), c.maintain)

/-! ### Where entries come from -/

/-- What a write does at once: the tier with the new entry, and the write that is to be logged. -/
def putting (c : Local) (key : String) (value : ByteArray) (cost : Nat) : Local × LoggedWrite :=
  let cost := min cost greatestCost
  match Keyed.get? c.entries key with
  | some e =>
    ({ c with entries := Keyed.put c.entries key ⟨value, cost, e.life, c.written⟩ },
      .put key e.life c.written e.cost cost)
  | none =>
    ({ c with
        entries := Keyed.put c.entries key ⟨value, cost, c.lives, c.written⟩
        lives := c.lives + 1 }, .put key c.lives c.written 0 cost)

theorem write_putting {c : Local} (h : c.maxCost ≠ 0) (key : String) (value : ByteArray) (cost : Nat) :
    c.write key value cost = (c.putting key value cost).1.logWrite (c.putting key value cost).2 := by
  simp only [write, putting]
  rw [if_neg h]
  cases Keyed.get? c.entries key <;> rfl

/-- A write puts one entry under its key. -/
theorem entries_putting (c : Local) (key : String) (value : ByteArray) (cost : Nat) :
    ∃ life, (c.putting key value cost).1.entries =
      Keyed.put c.entries key ⟨value, min cost greatestCost, life, c.written⟩ := by
  simp only [putting]
  cases Keyed.get? c.entries key with
  | none => exact ⟨_, rfl⟩
  | some e => exact ⟨_, rfl⟩

theorem shrinks_putting {c : Local} (h : c.maxCost ≠ 0) (key : String) (value : ByteArray)
    (cost : Nat) : Shrinks (c.putting key value cost).1 (c.set key value cost) := by
  refine Shrinks.trans ?_ (shrinks_set c key value cost)
  rw [write_putting h]
  exact shrinks_logWrite _ _

theorem maxCost_respond (call : LocalCall) (c : Local) :
    (c.respond call).2.maxCost = c.maxCost := by
  cases call with
  | get key => exact (shrinks_get c key).maxCost_eq
  | set key value cost =>
    refine (shrinks_set c key value cost).maxCost_eq.trans ?_
    by_cases hm : c.maxCost = 0
    · simp only [write, if_pos hm]
    · obtain ⟨d, e, w, hwrite, hd, -, -⟩ := write_eq hm key value cost
      rw [hwrite, (shrinks_logWrite d w).maxCost_eq, hd]
  | delete key => exact (shrinks_delete c key).maxCost_eq
  | flush => exact (shrinks_maintain c).maxCost_eq

/-- An entry after a call is the one that the call has set, or was there before. A call that writes the
key leaves none that was there before, unless there is no budget. -/
theorem entry_of_respond {c : Local} {call : LocalCall} {key : String} {e : Entry}
    (h : Keyed.get? (c.respond call).2.entries key = some e) :
    (∃ cost, call = .set key e.value cost ∧ e.cost = min cost greatestCost ∧ c.maxCost ≠ 0) ∨
      Keyed.get? c.entries key = some e ∧ (call.writes key = true → c.maxCost = 0) := by
  cases call with
  | get k => exact .inr ⟨(shrinks_get c k).entry_before h, fun hw => absurd hw Bool.false_ne_true⟩
  | set k value cost =>
    by_cases hm : c.maxCost = 0
    · have hsame : c.write k value cost = c := by simp only [write, if_pos hm]
      have hbefore := (shrinks_set c k value cost).entry_before h
      rw [hsame] at hbefore
      exact .inr ⟨hbefore, fun _ => hm⟩
    · have hput := (shrinks_putting hm k value cost).entry_before h
      obtain ⟨life, hentries⟩ := entries_putting c k value cost
      rw [hentries, Keyed.get?_put] at hput
      split at hput
      · rename_i hk
        obtain rfl := Option.some.inj hput
        exact .inl ⟨cost, by rw [hk], rfl, hm⟩
      · rename_i hk
        exact .inr ⟨hput, fun hw => absurd (of_decide_eq_true hw) hk⟩
  | delete k =>
    have herased := (shrinks_delete c k).entry_before h
    rw [Keyed.get?_erase] at herased
    split at herased
    · cases herased
    · rename_i hk
      exact .inr ⟨herased, fun hw => absurd (of_decide_eq_true hw) hk⟩
  | flush => exact .inr ⟨(shrinks_maintain c).entry_before h, fun hw => absurd hw Bool.false_ne_true⟩

/-- The tier after any calls on an empty one. -/
abbrev afterCalls (sizing : Sizing) (calls : List LocalCall) : Local :=
  Program.after respond calls (ofSizing sizing)

theorem afterCalls_concat (sizing : Sizing) (calls : List LocalCall) (call : LocalCall) :
    afterCalls sizing (calls ++ [call]) = ((afterCalls sizing calls).respond call).2 :=
  Program.after_append respond calls [call] _

theorem maxCost_afterCalls (sizing : Sizing) (calls : List LocalCall) :
    (afterCalls sizing calls).maxCost = sizing.maxCost :=
  Program.after_induction (P := fun c : Local => c.maxCost = sizing.maxCost)
    (fun call c h => (maxCost_respond call c).trans h) rfl calls

/-- Every entry is what was set last under its key, at the cost at which it was set. -/
theorem entry_latest {sizing : Sizing} {calls : List LocalCall} {key : String} {e : Entry}
    (h : Keyed.get? (afterCalls sizing calls).entries key = some e) :
    sizing.maxCost ≠ 0 ∧
      ∃ cost, LocalCall.Latest key e.value cost calls ∧ e.cost = min cost greatestCost := by
  induction calls using List.reverseRecOn generalizing e with
  | nil => cases h
  | append_singleton calls call ih =>
    rw [afterCalls_concat] at h
    rcases entry_of_respond h with ⟨cost, rfl, hcost, hm⟩ | ⟨hbefore, hwrites⟩
    · exact ⟨maxCost_afterCalls sizing calls ▸ hm, cost, .now _ _ _ _, hcost⟩
    · obtain ⟨hm, cost, hlatest, hcost⟩ := ih hbefore
      have hkept : call.writes key = false := by
        refine Bool.eq_false_iff.2 fun hw => hm ?_
        exact (maxCost_afterCalls sizing calls).symm.trans (hwrites hw)
      exact ⟨hm, cost, hlatest.concat hkept, hcost⟩

/-- **The local tier never serves a stale or foreign value.**  In every run of calls on an empty tier of
any size, with values at any cost, a lookup finds the value that was set last under its key or nothing;
and it finds nothing if the key has been removed since or was never set. -/
theorem lookups_never_stale (sizing : Sizing) (before : List LocalCall) (key : String)
    (since : List LocalCall) :
    ∃ reply : Option ByteArray,
      (Program.answers respond (before ++ .get key :: since) (ofSizing sizing))[before.length]? =
        some ⟨.get key, reply⟩ ∧
      (∀ value, reply = some value → ∃ cost, LocalCall.Latest key value cost before) ∧
      (∀ earlier later, before = earlier ++ .delete key :: later →
        (∀ call ∈ later, call.sets key = false) → reply = none) ∧
      ((∀ call ∈ before, call.sets key = false) → reply = none) := by
  have hlatest : ∀ value, (afterCalls sizing before).find? key = some value →
      ∃ cost, LocalCall.Latest key value cost before := by
    intro value hfound
    simp only [find?] at hfound
    split at hfound
    · cases hfound
    · obtain ⟨e, he, rfl⟩ := Option.map_eq_some_iff.1 hfound
      obtain ⟨-, cost, hlatest, -⟩ := entry_latest he
      exact ⟨cost, hlatest⟩
  refine ⟨(afterCalls sizing before).find? key, ?_, hlatest, fun earlier later hbefore hlater => ?_,
    fun hnever => ?_⟩
  · have hlength : (Program.answers respond before (ofSizing sizing)).length = before.length :=
      Program.length_answers _ _ _
    rw [Program.answers_append, List.getElem?_append_right (Nat.le_of_eq hlength), hlength,
      Nat.sub_self]
    simp only [Program.answers, List.getElem?_cons_zero]
    exact congrArg (fun reply => some (Sigma.mk (LocalCall.get key) reply)) (get_fst _ key)
  · refine Option.eq_none_iff_forall_ne_some.2 fun value hfound => ?_
    obtain ⟨cost, hlast⟩ := hlatest value hfound
    rw [hbefore] at hlast
    cases hlast.sets_since (decide_eq_true rfl) hlater
  · refine Option.eq_none_iff_forall_ne_some.2 fun value hfound => ?_
    obtain ⟨cost, earlier, later, rfl, -⟩ := hlatest value hfound
    have hset := hnever (.set key value cost) (by simp)
    simp [LocalCall.sets] at hset

/-- A value for trials of the local tier. -/
def plainValue : ByteArray := ⟨#[7]⟩

/-- Another value for trials of the local tier. -/
def otherValue : ByteArray := ⟨#[8, 9]⟩

/-- Calls for a trial with a budget of ten: a value is set anew before maintenance has seen the first
one, and removed while both writes wait. -/
def trialOverwrites : List LocalCall :=
  [.set "a" plainValue 4, .set "a" otherValue 6, .get "a", .delete "a", .get "a", .set "b" plainValue 20,
    .flush, .get "b"]

theorem lookups_never_stale_in_trial :
    (∃ cost, LocalCall.Latest "a" otherValue cost (trialOverwrites.take 2)) ∧
      (Program.answers respond trialOverwrites (ofSizing ⟨10, 100, 64⟩))[4]? =
        some ⟨.get "a", none⟩ := by
  constructor
  · obtain ⟨reply, hreply, hlatest, -⟩ := lookups_never_stale ⟨10, 100, 64⟩ (trialOverwrites.take 2) "a"
      (trialOverwrites.drop 3)
    refine hlatest otherValue ?_
    have hfound : some ⟨LocalCall.get "a", some otherValue⟩ =
        some (Sigma.mk (β := LocalCall.Reply) (LocalCall.get "a") reply) := hreply
    cases hfound
    rfl
  · obtain ⟨reply, hreply, -, hgone, -⟩ := lookups_never_stale ⟨10, 100, 64⟩ (trialOverwrites.take 4) "a"
      (trialOverwrites.drop 5)
    have hnone := hgone (trialOverwrites.take 3) [] rfl (fun _ h => nomatch h)
    rw [hnone] at hreply
    exact hreply

end Local

end Roster.Cache
