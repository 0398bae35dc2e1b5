import Mathlib.Logic.Function.Basic
import Roster.Proofs.Cache.Shared
import Roster.Proofs.Service.Dated

/-!
# Instances that share a remote tier

Several instances of the service work on one repository and share one remote tier, but each has a
local tier, counters and a generation of its own. Only an instance that changes the directory counts
its generation on, so the number in the key of a page means something else to every instance.

* `Fleet` is the state of all of them, and `Fleet.handle` lets one of them take a turn.
* `Fleet.asked?` is the moment at which a page was first asked for under a number. Behind a remote tier
  that is a map the page stays cached as it was then: `Fleet.listed_after`.
* `listing_after_own_change` says when an instance that has changed the directory gets an older page.
-/

namespace Roster.Service

open Roster.Cache Roster.Number Roster.Store

/-- A page says how many live users there are. -/
theorem page_total (t : Table) (r : PageRequest) :
    (t.page r).info.totalElements = t.live.length := by
  show (t.live.mergeSort Table.listedBefore).length = _
  rw [List.length_mergeSort]

/-- A page of a table that has no more rows than 64 bits can count is read back from the cache. -/
theorem decode_page {t : Table} (h : t.length ≤ wordMax) (r : PageRequest) :
    decodeBundle? (encodeBundle (.ofPage (t.page r))) = some (.ofPage (t.page r)) := by
  have hlive : t.live.length ≤ t.length := by
    simp only [Table.live]
    exact Nat.le_trans (List.length_filter_le _ _) (Nat.le_of_eq (List.length_map _))
  refine decodeBundle?_encodeBundle ?_
  show (t.page r).info.totalElements ≤ wordMax
  rw [page_total]
  exact Nat.le_trans hlive h

/-! ### One instance -/

section Instance

variable {ρ : Type} {cache : Layered ρ} {may : ρ → Prop} {view : ρ → String → Option ByteArray}
  (h : cache.Faithful may view) (hremote : cache.hasRemote = true) {s : Fronted ρ}
  (hfar : may s.tiers.far) {r : PageRequest}

include h hremote hfar

/-- What can be found under a key stays the same in every operation that does not address the key. -/
theorem shows_step {key : String} {held : Option ByteArray} {op : Operation}
    (hk : Layered.Shows view key held s.tiers) (hother : ¬ s.Addresses op key) :
    Layered.Shows view key held ((fronted cache).run op s).2.tiers := by
  have hne : ∀ {other}, s.Addresses op other → other ≠ key := by
    rintro other hother' rfl
    exact hother hother'
  refine (tiers_step cache (P := fun t => may t.far ∧ Layered.Shows view key held t)
    ?_ ?_ ?_ ⟨hfar, hk⟩).2
  · intro other t _ ht
    exact ⟨h.tracked.may_get other ht.1, ht.2.get h hremote ht.1⟩
  · intro other value t ha ht
    exact ⟨h.tracked.may_set other value ht.1, ht.2.set_other h hremote ht.1 (hne ha) value⟩
  · intro other t ha ht
    exact ⟨h.tracked.may_delete other ht.1, ht.2.delete_other h hremote ht.1 (hne ha)⟩

/-- A page that is found and can be read is the answer, and stays where it is. -/
theorem list_of_found {bytes : ByteArray} {b : Bundle}
    (hk : Layered.Shows view (pageKey s.generation.current r) (some bytes) s.tiers)
    (hb : decodeBundle? bytes = some b) :
    ((fronted cache).run (.list r) s).1 = .ok (b.page r) ∧
      Layered.Shows view (pageKey s.generation.current r) (some bytes)
        ((fronted cache).run (.list r) s).2.tiers := by
  rw [cached_list, hk.get_fst h hremote hfar, Option.bind_some, hb, Option.map_some]
  exact ⟨rfl, hk.get h hremote hfar⟩

/-- A page that is not found is taken now, and can be found from now on. -/
theorem list_of_not_found
    (hk : Layered.Shows view (pageKey s.generation.current r) none s.tiers) :
    ((fronted cache).run (.list r) s).1 = .ok (s.page r) ∧
      Layered.Shows view (pageKey s.generation.current r) (some (encodeBundle (.ofPage (s.page r))))
        ((fronted cache).run (.list r) s).2.tiers := by
  rw [cached_list, hk.get_fst h hremote hfar, base_list]
  exact ⟨rfl, Layered.Shows.set h hremote (h.tracked.may_get _ hfar) _⟩

end Instance

/-! ### Fleets -/

/-- What an instance has of its own. -/
structure Member where
  near : Local
  stats : Stats
  generation : Generation

/-- Instances `ι` of the service on one repository and with one remote tier. -/
structure Fleet (ι ρ : Type) where
  behind : World Repository
  far : ρ
  own : ι → Member

/-- A turn of an instance, with the operation that it is asked for. -/
structure Turn (ι : Type) where
  on : ι
  op : Operation

namespace Fleet

variable {ι ρ : Type}

/-- The state as one instance has it. -/
def seen (f : Fleet ι ρ) (i : ι) : Fronted ρ :=
  ⟨f.behind, (f.own i).generation, (f.own i).near, f.far, (f.own i).stats⟩

/-- The number of the generation that an instance has reached. -/
def number (f : Fleet ι ρ) (i : ι) : Nat := (f.own i).generation.current

/-- The page that the repository has for a request. -/
def page (f : Fleet ι ρ) (r : PageRequest) : Page User := f.behind.store.table.page r

variable [DecidableEq ι]

/-- The fleet after one instance has left this state behind. -/
def leave (f : Fleet ι ρ) (i : ι) (s : Fronted ρ) : Fleet ι ρ :=
  ⟨s.behind, s.tiers.far, Function.update f.own i ⟨s.tiers.near, s.tiers.stats, s.generation⟩⟩

/-- What a turn does: the instance acts on its own tier and on what is shared. -/
def handle (caches : ι → Layered ρ) :
    Program.Handler (Turn ι) (fun turn => turn.op.Reply) (Fleet ι ρ)
  | ⟨i, op⟩, f =>
    (((fronted (caches i)).run op (f.seen i)).1,
      f.leave i ((fronted (caches i)).run op (f.seen i)).2)

/-- The fleet after turns. -/
def after (caches : ι → Layered ρ) (turns : List (Turn ι)) (f : Fleet ι ρ) : Fleet ι ρ :=
  Program.after (handle caches) turns f

/-- What an instance answers to a request for a page. -/
def listed (caches : ι → Layered ρ) (f : Fleet ι ρ) (i : ι) (r : PageRequest) :
    Except Failure (Page User) := (handle caches ⟨i, .list r⟩ f).1

/-- The fleet when one of the instances first asks for a page while its generation has a number. -/
def asked? (caches : ι → Layered ρ) (g : Nat) (r : PageRequest) :
    List (Turn ι) → Fleet ι ρ → Option (Fleet ι ρ)
  | [], _ => none
  | turn :: turns, f =>
    if turn.op = .list r ∧ f.number turn.on = g then some f
    else asked? caches g r turns (handle caches turn f).2

/-- How many of the turns are changes that an instance has made. -/
def changesOf (caches : ι → Layered ρ) (i : ι) (turns : List (Turn ι)) (f : Fleet ι ρ) : Nat :=
  (Program.answers (handle caches) turns f).countP fun a => a.1.on = i && a.1.op.changed a.2

/-- All that can be found under a key, by whichever instance. -/
def Holding (view : ρ → String → Option ByteArray) (key : String) (held : Option ByteArray)
    (f : Fleet ι ρ) : Prop := ∀ i, Layered.Shows view key held (f.seen i).tiers

theorem seen_leave (f : Fleet ι ρ) (i : ι) (s : Fronted ρ) : (f.leave i s).seen i = s := by
  simp only [seen, leave]
  rw [Function.update_self]

theorem own_leave {f : Fleet ι ρ} {i j : ι} (hne : j ≠ i) (s : Fronted ρ) :
    (f.leave i s).own j = f.own j := by
  simp only [leave]
  rw [Function.update_of_ne hne]

/-! ### Turns -/

theorem behind_handle (caches : ι → Layered ρ) (turn : Turn ι) (f : Fleet ι ρ) :
    (handle caches turn f).2.behind = ((base tableBacking).run turn.op f.behind).2 :=
  step_behind (caches turn.on) turn.op (f.seen turn.on)

theorem changed_handle (caches : ι → Layered ρ) (turn : Turn ι) (f : Fleet ι ρ) :
    turn.op.changed (handle caches turn f).1 =
      turn.op.changed ((base tableBacking).run turn.op f.behind).1 :=
  changed_answer (caches turn.on) turn.op (f.seen turn.on)

/-- The repository does not notice that there are several instances. -/
theorem behind_after (caches : ι → Layered ρ) (turns : List (Turn ι)) (f : Fleet ι ρ) :
    (after caches turns f).behind =
      Program.after (base tableBacking).run (turns.map Turn.op) f.behind := by
  induction turns generalizing f with
  | nil => rfl
  | cons turn turns ih =>
    have hrest := ih (handle caches turn f).2
    rw [behind_handle] at hrest
    exact hrest

/-- Rows are never lost. -/
theorem rows_le {caches : ι → Layered ρ} {f : Fleet ι ρ} (hsound : f.behind.store.table.Sound)
    (before since : List (Turn ι)) :
    (after caches before f).behind.store.table.length ≤
      (after caches (before ++ since) f).behind.store.table.length := by
  have hbefore := base_after hsound (before.map Turn.op)
  rw [behind_after, behind_after, List.map_append, Program.after_append]
  exact (base_after hbefore.1 (since.map Turn.op)).2.length_le hbefore.1

/-- A change counts the generation of its own instance on, and no other. -/
theorem number_handle (caches : ι → Layered ρ) (turn : Turn ι) (f : Fleet ι ρ) (i : ι) :
    (handle caches turn f).2.number i =
      if turn.on = i ∧ turn.op.changed (handle caches turn f).1 = true then wrapped (f.number i + 1)
      else f.number i := by
  have hown := step_generation (caches turn.on) turn.op (f.seen turn.on)
  rw [changed_handle]
  by_cases hi : turn.on = i
  · subst hi
    have hseen : (handle caches turn f).2.seen turn.on =
        ((fronted (caches turn.on)).run turn.op (f.seen turn.on)).2 := seen_leave f turn.on _
    show ((handle caches turn f).2.seen turn.on).generation.current = _
    by_cases hc : turn.op.changed ((base tableBacking).run turn.op f.behind).1 = true
    · rw [if_pos ⟨rfl, hc⟩, hseen, hown]
      exact congrArg Generation.current (if_pos hc)
    · rw [if_neg fun hand => hc hand.2, hseen, hown]
      exact congrArg Generation.current (if_neg hc)
  · rw [if_neg fun hand => hi hand.1]
    exact congrArg (fun m : Member => m.generation.current) (own_leave (Ne.symm hi) _)

theorem changesOf_cons (caches : ι → Layered ρ) (i : ι) (turn : Turn ι) (turns : List (Turn ι))
    (f : Fleet ι ρ) : changesOf caches i (turn :: turns) f =
      changesOf caches i turns (handle caches turn f).2 +
        if turn.on = i ∧ turn.op.changed (handle caches turn f).1 = true then 1 else 0 := by
  simp only [changesOf]
  rw [Program.answers, List.countP_cons]
  simp only [Bool.and_eq_true, decide_eq_true_eq]

theorem changesOf_append (caches : ι → Layered ρ) (i : ι) (before since : List (Turn ι))
    (f : Fleet ι ρ) : changesOf caches i (before ++ since) f =
      changesOf caches i before f + changesOf caches i since (after caches before f) := by
  simp only [changesOf]
  rw [Program.answers_append, List.countP_append]
  rfl

/-- The number of an instance counts its own changes. -/
theorem number_after (caches : ι → Layered ρ) (turns : List (Turn ι)) (f : Fleet ι ρ) (i : ι) :
    wrapped ((after caches turns f).number i) =
      wrapped (f.number i + changesOf caches i turns f) := by
  induction turns generalizing f with
  | nil => rfl
  | cons turn turns ih =>
    have hrest := ih (handle caches turn f).2
    rw [number_handle] at hrest
    show wrapped ((after caches turns (handle caches turn f).2).number i) = _
    rw [hrest, changesOf_cons]
    by_cases hand : turn.on = i ∧ turn.op.changed (handle caches turn f).1 = true
    · rw [if_pos hand, if_pos hand]
      simp only [wrapped]
      omega
    · rw [if_neg hand, if_neg hand]
      rfl

/-- An instance comes back to a number only by as many changes as there are numbers, or none. -/
theorem changesOf_of_number_eq {caches : ι → Layered ρ} {turns : List (Turn ι)} {f : Fleet ι ρ} {i : ι}
    (hfew : changesOf caches i turns f ≤ wordMax)
    (hsame : f.number i = (after caches turns f).number i) : changesOf caches i turns f = 0 := by
  have hcount := number_after caches turns f i
  rw [← hsame] at hcount
  simp only [wrapped, wordMax] at hcount hfew
  omega

theorem after_append (caches : ι → Layered ρ) (before since : List (Turn ι)) (f : Fleet ι ρ) :
    after caches (before ++ since) f = after caches since (after caches before f) :=
  Program.after_append ..

/-- The moment at which a page was first asked for is one of the run. -/
theorem asked?_eq_some {caches : ι → Layered ρ} {g : Nat} {r : PageRequest} {turns : List (Turn ι)}
    {f old : Fleet ι ρ} (hasked : asked? caches g r turns f = some old) :
    ∃ first i rest, turns = first ++ ⟨i, .list r⟩ :: rest ∧ old = after caches first f ∧
      old.number i = g := by
  induction turns generalizing f with
  | nil => cases hasked
  | cons turn turns ih =>
    simp only [asked?] at hasked
    by_cases hasks : turn.op = .list r ∧ f.number turn.on = g
    · rw [if_pos hasks] at hasked
      obtain ⟨i, op⟩ := turn
      obtain ⟨rfl, hg⟩ := hasks
      rw [← Option.some.inj hasked]
      exact ⟨[], i, turns, rfl, rfl, hg⟩
    · rw [if_neg hasks] at hasked
      obtain ⟨first, i, rest, rfl, rfl, hg⟩ := ih hasked
      exact ⟨turn :: first, i, rest, rfl, rfl, hg⟩

theorem asked?_append (caches : ι → Layered ρ) (g : Nat) (r : PageRequest)
    (before since : List (Turn ι)) (f : Fleet ι ρ) :
    asked? caches g r (before ++ since) f =
      (asked? caches g r before f).or (asked? caches g r since (after caches before f)) := by
  induction before generalizing f with
  | nil => rfl
  | cons turn before ih =>
    simp only [List.cons_append, asked?]
    by_cases hasks : turn.op = .list r ∧ f.number turn.on = g
    · rw [if_pos hasks, if_pos hasks, Option.some_or]
    · rw [if_neg hasks, if_neg hasks]
      exact ih (handle caches turn f).2

section Run

variable {caches : ι → Layered ρ} {may : ρ → Prop} {view : ρ → String → Option ByteArray}
  (h : ∀ i, (caches i).Faithful may view) (hremote : ∀ i, (caches i).hasRemote = true)
  {f : Fleet ι ρ} (hfar : may f.far) (hsound : f.behind.store.table.Sound) {g : Nat} {r : PageRequest}

omit [DecidableEq ι] in
/-- An operation of one instance concerns a page only if it asks for it under the number that the
instance has reached. -/
theorem addresses_page {i : ι} {op : Operation}
    (ha : (f.seen i).Addresses op (pageKey g r)) : op = .list r ∧ f.number i = g := by
  rcases ha with ⟨id, hid⟩ | ⟨q, rfl, hq⟩
  · exact absurd hid.symm (userKey_ne_pageKey id g r)
  · obtain ⟨hg, hr⟩ := pageKey_inj.1 hq
    exact ⟨by rw [hr], hg.symm⟩

omit h hremote in
/-- What the instance that takes a turn can find is what all can find, if the others have found nothing
else before. -/
theorem Holding.leave {key : String} {held held' : Option ByteArray} (hf : Holding view key held f)
    {i : ι} {s : Fronted ρ} (hs : Layered.Shows view key held' s.tiers)
    (hmono : ∀ value, held = some value → held' = some value) :
    Holding view key held' (f.leave i s) := by
  intro j
  by_cases hj : j = i
  · rw [hj, seen_leave]
    exact hs
  · refine ⟨hs.far, fun {value} hnear => ?_⟩
    simp only [seen] at hnear
    rw [own_leave hj] at hnear
    exact hmono value ((hf j).near hnear)

include h hfar

theorem may_handle (turn : Turn ι) : may (handle caches turn f).2.far :=
  may_step (h turn.on).tracked (s := f.seen turn.on) hfar turn.op

include hremote

/-- A page for which nobody asks stays as it is. -/
theorem Holding.handle_other {held : Option ByteArray} (hf : Holding view (pageKey g r) held f)
    {turn : Turn ι} (hother : ¬ (turn.op = .list r ∧ f.number turn.on = g)) :
    Holding view (pageKey g r) held (handle caches turn f).2 := by
  refine hf.leave ?_ fun value hv => hv
  refine shows_step (h turn.on) (hremote turn.on) hfar (hf turn.on) ?_
  intro ha
  exact hother (addresses_page ha)

/-- A page that is cached and can be read stays as it is. -/
theorem Holding.handle_found {bytes : ByteArray} {b : Bundle}
    (hf : Holding view (pageKey g r) (some bytes) f) (hb : decodeBundle? bytes = some b)
    (turn : Turn ι) : Holding view (pageKey g r) (some bytes) (handle caches turn f).2 := by
  by_cases hasks : turn.op = .list r ∧ f.number turn.on = g
  · obtain ⟨i, op⟩ := turn
    obtain ⟨rfl, rfl⟩ := hasks
    refine hf.leave ?_ fun value hv => hv
    exact (list_of_found (h i) (hremote i) (s := f.seen i) hfar (hf i) hb).2
  · exact hf.handle_other h hremote hfar hasks

/-- The first to ask for a page has it cached as it is then. -/
theorem Holding.handle_new (hf : Holding view (pageKey g r) none f) {i : ι} (hg : f.number i = g) :
    Holding view (pageKey g r) (some (encodeBundle (.ofPage (f.page r))))
      (handle caches ⟨i, .list r⟩ f).2 := by
  subst hg
  refine hf.leave ?_ fun value hv => ?_
  · exact (list_of_not_found (h i) (hremote i) (s := f.seen i) hfar (hf i)).2
  · cases hv

theorem Holding.after_found {bytes : ByteArray} {b : Bundle}
    (hf : Holding view (pageKey g r) (some bytes) f) (hb : decodeBundle? bytes = some b)
    (turns : List (Turn ι)) : Holding view (pageKey g r) (some bytes) (after caches turns f) := by
  induction turns generalizing f with
  | nil => exact hf
  | cons turn turns ih =>
    exact ih (may_handle h hfar turn) (hf.handle_found h hremote hfar hb turn)

/-- Once a page has been asked for under a number, it is cached as it was then. -/
theorem Holding.after_asked (hf : Holding view (pageKey g r) none f) (turns : List (Turn ι))
    (hroom : (after caches turns f).behind.store.table.length ≤ wordMax)
    (hsound : f.behind.store.table.Sound) :
    Holding view (pageKey g r)
      ((asked? caches g r turns f).map fun old => encodeBundle (.ofPage (old.page r)))
      (after caches turns f) := by
  induction turns generalizing f with
  | nil => exact hf
  | cons turn turns ih =>
    simp only [asked?]
    by_cases hasks : turn.op = .list r ∧ f.number turn.on = g
    · rw [if_pos hasks, Option.map_some]
      have hfew := Nat.le_trans (rows_le hsound [] (turn :: turns)) hroom
      obtain ⟨i, op⟩ := turn
      obtain ⟨rfl, hg⟩ := hasks
      have hnew := hf.handle_new h hremote hfar hg
      exact hnew.after_found h hremote (may_handle h hfar _) (decode_page hfew r) turns
    · rw [if_neg hasks]
      refine ih (may_handle h hfar turn) (hf.handle_other h hremote hfar hasks) hroom ?_
      rw [behind_handle]
      exact base_sound hsound turn.op

/-- Every listing is answered with the page as it was when it was first asked for under the number
that the instance has reached. -/
theorem listed_after (hf : ∀ g, Holding view (pageKey g r) none f) (turns : List (Turn ι))
    (hroom : (after caches turns f).behind.store.table.length ≤ wordMax)
    (hsound : f.behind.store.table.Sound) (i : ι) :
    listed caches (after caches turns f) i r =
      .ok (((asked? caches ((after caches turns f).number i) r turns f).getD
        (after caches turns f)).page r) := by
  have hfar' : may (after caches turns f).far :=
    Program.after_induction (P := fun f : Fleet ι ρ => may f.far)
      (fun turn _ ht => may_handle h ht turn) hfar turns
  have hheld := (hf ((after caches turns f).number i)).after_asked h hremote hfar turns hroom hsound i
  show ((fronted (caches i)).run (.list r) ((after caches turns f).seen i)).1 = _
  cases hasked : asked? caches ((after caches turns f).number i) r turns f with
  | none =>
    rw [hasked, Option.map_none] at hheld
    exact (list_of_not_found (h i) (hremote i) (s := (after caches turns f).seen i) hfar' hheld).1
  | some old =>
    rw [hasked, Option.map_some] at hheld
    obtain ⟨first, j, rest, rfl, rfl, -⟩ := asked?_eq_some hasked
    have hfew := Nat.le_trans (rows_le hsound first _) hroom
    exact (list_of_found (h i) (hremote i) (s := (after caches _ f).seen i) hfar' hheld
      (decode_page hfew r)).1

end Run

omit [DecidableEq ι] in
/-- Nothing can be found in a fleet without entries. -/
theorem holding_start {view : ρ → String → Option ByteArray} {f : Fleet ι ρ}
    (hfar : ∀ key, view f.far key = none) (hnear : ∀ i, (f.own i).near.entries = []) (key : String) :
    Holding view key none f := by
  intro i
  refine ⟨hfar key, fun {value} hfind => ?_⟩
  have hnone := Local.find?_of_no_entries (hnear i) key
  exact absurd (hnone.symm.trans hfind) (by simp)

end Fleet

open Fleet in
/-- Once an instance has changed the directory, it answers a listing with a page as it has been since
then, unless the page had already been asked for under the number that the instance has reached. Then
it answers with the page as it was at that moment, which was before the change; and the one that asked
was another instance, as long as this one has not made `2 ^ 64` changes. -/
theorem listing_after_own_change {ι ρ : Type} [DecidableEq ι] {caches : ι → Layered ρ}
    {may : ρ → Prop} {view : ρ → String → Option ByteArray} (h : ∀ i, (caches i).Faithful may view)
    (hremote : ∀ i, (caches i).hasRemote = true) {f : Fleet ι ρ} (hfar : may f.far)
    (hsound : f.behind.store.table.Sound) {r : PageRequest}
    (hempty : ∀ g, Holding view (pageKey g r) none f) (before since : List (Turn ι)) (i : ι)
    (op : Operation) (hchange : op.changed (handle caches ⟨i, op⟩ (after caches before f)).1 = true)
    (hroom : (after caches (before ++ ⟨i, op⟩ :: since) f).behind.store.table.length ≤ wordMax) :
    (asked? caches ((after caches (before ++ ⟨i, op⟩ :: since) f).number i) r before f = none →
        ∃ done rest, since = done ++ rest ∧
          listed caches (after caches (before ++ ⟨i, op⟩ :: since) f) i r =
            .ok ((after caches (before ++ ⟨i, op⟩ :: done) f).page r)) ∧
      ∀ old, asked? caches ((after caches (before ++ ⟨i, op⟩ :: since) f).number i) r before f =
          some old →
        listed caches (after caches (before ++ ⟨i, op⟩ :: since) f) i r = .ok (old.page r) ∧
          ∃ first j rest, before = first ++ ⟨j, .list r⟩ :: rest ∧ old = after caches first f ∧
            (changesOf caches i (before ++ ⟨i, op⟩ :: since) f ≤ wordMax → j ≠ i) := by
  have hlisted := listed_after h hremote hfar hempty (before ++ ⟨i, op⟩ :: since) hroom hsound i
  rw [asked?_append] at hlisted
  refine ⟨fun hnobody => ?_, fun old hasked => ?_⟩
  · rw [hnobody, Option.none_or] at hlisted
    cases hlater : asked? caches ((after caches (before ++ ⟨i, op⟩ :: since) f).number i) r
        (⟨i, op⟩ :: since) (after caches before f) with
    | none =>
      rw [hlater] at hlisted
      exact ⟨since, [], (List.append_nil since).symm, hlisted⟩
    | some old =>
      rw [hlater] at hlisted
      obtain ⟨done, j, rest, hsplit, rfl, -⟩ := asked?_eq_some hlater
      -- The change itself does not ask for a page, so the moment comes after it.
      cases done with
      | nil =>
        obtain ⟨hturn, -⟩ := List.cons.inj hsplit
        obtain ⟨rfl, rfl⟩ := Turn.mk.inj hturn
        cases hchange
      | cons turn done =>
        obtain ⟨rfl, rfl⟩ := List.cons.inj hsplit
        refine ⟨done, ⟨j, .list r⟩ :: rest, rfl, ?_⟩
        rw [hlisted, Option.getD_some, after_append caches before]
  · rw [hasked, Option.some_or] at hlisted
    obtain ⟨first, j, rest, rfl, rfl, hnumber⟩ := asked?_eq_some hasked
    refine ⟨hlisted, first, j, rest, rfl, rfl, ?_⟩
    rintro hfew rfl
    rw [List.append_assoc, after_append] at hnumber
    rw [List.append_assoc, changesOf_append] at hfew
    have hnone := changesOf_of_number_eq (Nat.le_trans (Nat.le_add_left _ _) hfew) hnumber
    rw [changesOf_append, ← after_append, Nat.add_eq_zero_iff] at hnone
    have hone := changesOf_cons caches j ⟨j, op⟩ since
      (after caches (first ++ ⟨j, .list r⟩ :: rest) f)
    rw [if_pos ⟨rfl, hchange⟩, hnone.2] at hone
    cases hone

/-! ### Two instances -/

/-- Two instances that have not been asked for anything yet, with a remote tier that is a map. -/
def trialFleet : Fleet Bool Simulated :=
  ⟨⟨.empty, .still⟩, .ofBehaviour .map, fun _ => ⟨.ofSizing ⟨10, 1000, 1⟩, ⟨0, 0, 0, 0⟩, .first⟩⟩

/-- Their caches. -/
def trialCaches : Bool → Layered Simulated := fun _ => Simulated.layered ⟨0⟩ ⟨0⟩

/-- The first instance creates a user and lists the users. -/
def trialTurns : List (Turn Bool) :=
  [⟨false, .create ⟨"Jane", "jane@x.com"⟩⟩, ⟨false, .list .first⟩]

/-- Another user is created. -/
def trialCreation : Operation := .create ⟨"John", "john@x.com"⟩

theorem trialCaches_faithful (i : Bool) :
    (trialCaches i).Faithful (fun s => s.behaviour = .map) Simulated.view :=
  Simulated.layered_faithful ⟨0⟩ ⟨0⟩

theorem trialFleet_map : trialFleet.far.behaviour = .map := rfl

theorem trialFleet_empty (key : String) : Fleet.Holding Simulated.view key none trialFleet :=
  Fleet.holding_start (fun _ => rfl) (fun _ => rfl) key

section Trial

open Fleet

theorem trialCreation_changes : trialCreation.changed
    (handle trialCaches ⟨true, trialCreation⟩ (after trialCaches trialTurns trialFleet)).1 = true := by
  refine (changed_handle trialCaches ⟨true, trialCreation⟩ _).trans ?_
  rw [Fleet.behind_after]
  decide +kernel

theorem trialFleet_rows : (after trialCaches (trialTurns ++ [⟨true, trialCreation⟩])
    trialFleet).behind.store.table.length ≤ wordMax := by
  rw [Fleet.behind_after]
  decide +kernel

/-- When the second instance has created a user, nobody has asked for the second page yet. -/
theorem listing_after_own_change_in_trial :
    listed trialCaches (after trialCaches (trialTurns ++ [⟨true, trialCreation⟩]) trialFleet) true
        (.of 2 20) =
      .ok ((after trialCaches (trialTurns ++ [⟨true, trialCreation⟩]) trialFleet).page (.of 2 20)) := by
  obtain ⟨done, rest, hsplit, hlisted⟩ := (listing_after_own_change (f := trialFleet) (r := .of 2 20)
    trialCaches_faithful (fun _ => rfl) trialFleet_map Table.sound_nil (fun g => trialFleet_empty _)
    trialTurns [] true trialCreation trialCreation_changes
    trialFleet_rows).1 (by decide +kernel)
  obtain ⟨rfl, -⟩ := List.append_eq_nil_iff.1 hsplit.symm
  exact hlisted

/-- But the first page had been asked for under the number that the second instance has reached. The
user that it has just created is not on the page with which it answers. -/
theorem own_change_not_listed :
    trialCreation.changed
        (handle trialCaches ⟨true, trialCreation⟩ (after trialCaches trialTurns trialFleet)).1 = true ∧
      listed trialCaches (after trialCaches (trialTurns ++ [⟨true, trialCreation⟩]) trialFleet) true
          .first ≠
        .ok ((after trialCaches (trialTurns ++ [⟨true, trialCreation⟩]) trialFleet).page .first) := by
  refine ⟨trialCreation_changes, fun hfresh => ?_⟩
  have hlisted := listed_after (f := trialFleet) (r := .first) trialCaches_faithful (fun _ => rfl)
    trialFleet_map (fun g => trialFleet_empty _) (trialTurns ++ [Turn.mk true trialCreation])
    trialFleet_rows Table.sound_nil true
  have hasked : (asked? trialCaches
      ((after trialCaches (trialTurns ++ [⟨true, trialCreation⟩]) trialFleet).number true) .first
      (trialTurns ++ [⟨true, trialCreation⟩]) trialFleet).map
        (fun old => old.behind.store.table.live.length) = some 1 := by
    decide +kernel
  obtain ⟨old, hold, hone⟩ := Option.map_eq_some_iff.1 hasked
  have htwo : (after trialCaches (trialTurns ++ [⟨true, trialCreation⟩])
      trialFleet).behind.store.table.live.length = 2 := by
    rw [Fleet.behind_after]
    decide +kernel
  rw [hlisted, hold, Option.getD_some] at hfresh
  have htotal := congrArg (fun p : Page User => p.info.totalElements) (Except.ok.inj hfresh)
  simp only [page] at htotal
  rw [page_total, page_total, hone, htwo] at htotal
  cases htotal

end Trial

end Roster.Service
