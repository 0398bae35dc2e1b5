import Roster.Json.Record
import Roster.Proofs.Json.Printed
import Roster.Proofs.Json.Skipped

/-!
# Lists and objects that are read

Readers that go through a list or an object accept exactly the lists and objects whose members they
accept, however much white space stands between them.

* `MembersAt` is the grammar of the members of a bracket, for any grammar of a single member.
* `entries_eq_ok` is about objects: entries are read one after another into a state.
* `positional_eq_ok` is about the list form of a record: its fields are read in their order, and fields
  that are missing at the end have their defaults.
* `Record.reader_eq_ok` puts the two forms of a record together, and `Reader.run_eq_ok` is about whole
  texts.
-/

namespace Roster.Json

open Roster.Text

/-! ### Members -/

/-- What stands in front of a member: nothing in front of the first one, a comma otherwise. -/
def LeadsTo (first : Bool) (cs ds : List Char) : Prop :=
  if first = true then cs = ds else skipBlanks cs = ',' :: ds

/-- The members of a bracket, from the first one or a later one on, up to and with its end. -/
inductive MembersAt {α : Type} (b : Bracket) (M : List Char → α → List Char → Prop) :
    Bool → List Char → List α → List Char → Prop where
  | close {first : Bool} {cs rest : List Char} : skipBlanks cs = b.closing :: rest →
      MembersAt b M first cs [] rest
  | more {first : Bool} {cs ds es rest : List Char} {a : α} {as : List α} : LeadsTo first cs ds →
      M ds a es → MembersAt b M false es as rest → MembersAt b M first cs (a :: as) rest

theorem leadsTo_first {cs ds : List Char} : LeadsTo true cs ds ↔ cs = ds := Iff.rfl

theorem leadsTo_later {cs ds : List Char} : LeadsTo false cs ds ↔ skipBlanks cs = ',' :: ds := Iff.rfl

theorem LeadsTo.length_le {first : Bool} {cs ds : List Char} (h : LeadsTo first cs ds) :
    ds.length ≤ cs.length := by
  cases first with
  | true => exact Nat.le_of_eq (congrArg List.length (leadsTo_first.1 h)).symm
  | false => exact Nat.le_of_lt (length_lt_of_skipBlanks (leadsTo_later.1 h))

/-! ### Objects -/

/-- An entry of an object, for a grammar of the values of each key. -/
def EntryAt {α : Type} (V : String → List Char → α → List Char → Prop) (cs : List Char)
    (e : String × α) (rest : List Char) : Prop :=
  ∃ ds, KeyAt true cs e.1.toList ds ∧ V e.1 ds e.2 rest

/-- How entries lead from one state to another. -/
inductive Fills {σ α : Type} (put : String → α → σ → σ → Prop) :
    List (String × α) → σ → σ → Prop where
  | nil (s : σ) : Fills put [] s s
  | cons {key : String} {a : α} {es : List (String × α)} {s t u : σ} :
      put key a s t → Fills put es t u → Fills put ((key, a) :: es) s u

theorem textRest_eq_ok {cs rest : List Char} {s : String} :
    textRest cs = .ok (s, rest) ↔ TextAt true cs s.toList rest := by
  rw [← textBody_eq_ok]
  simp only [textRest]
  cases textBody true cs with
  | error e => exact iff_of_false error_ne_ok error_ne_ok
  | ok r =>
    obtain ⟨t, more⟩ := r
    show Except.ok (String.ofList t, more) = _ ↔ _
    simp only [Except.ok.injEq, Prod.mk.injEq]
    rw [← String.toList_inj, String.toList_ofList]

theorem nextKey_end {first : Bool} {cs ds : List Char} :
    nextKey first cs = .ok (false, ds) ↔ ∃ rest, skipBlanks cs = '}' :: rest ∧ ds = '}' :: rest := by
  unfold nextKey
  split
  · rename_i heq
    exact iff_of_false error_ne_ok fun ⟨_, h, _⟩ => nomatch heq.symm.trans h
  · rename_i rest heq
    refine ⟨fun h => ?_, fun ⟨rest', h, hds⟩ => ?_⟩
    · cases h
      exact ⟨rest, heq, rfl⟩
    · rw [hds, (List.cons.inj (heq.symm.trans h)).2]
  · rename_i hbrace heq
    refine iff_of_false (fun h => ?_) fun ⟨rest, h, _⟩ =>
      hbrace (List.cons.inj (heq.symm.trans h)).1
    repeat' split at h
    all_goals cases h

theorem nextKey_key {first : Bool} {cs ds : List Char} :
    nextKey first cs = .ok (true, ds) ↔ ∃ es, LeadsTo first cs es ∧ skipBlanks es = '"' :: ds := by
  cases first with
  | true =>
    simp only [leadsTo_first, exists_eq_left']
    unfold nextKey
    split
    · rename_i heq
      exact iff_of_false error_ne_ok fun h => nomatch heq.symm.trans h
    · rename_i heq
      exact iff_of_false (fun h => nomatch h) fun h => nomatch heq.symm.trans h
    · rename_i c rest _ heq
      rw [if_pos rfl, heq]
      split
      · rename_i hquote
        simp [hquote]
      · rename_i hquote
        exact iff_of_false error_ne_ok fun h => hquote (List.cons.inj h).1
  | false =>
    simp only [leadsTo_later]
    unfold nextKey
    split
    · rename_i heq
      exact iff_of_false error_ne_ok fun ⟨_, h, _⟩ => nomatch heq.symm.trans h
    · rename_i heq
      exact iff_of_false (fun h => nomatch h) fun ⟨_, h, _⟩ => nomatch heq.symm.trans h
    · rename_i c rest _ heq
      rw [if_neg Bool.false_ne_true, heq]
      split
      · rename_i hcomma
        simp only [hcomma, List.cons.injEq, true_and, exists_eq_left']
        split
        · rename_i hrest
          exact iff_of_false error_ne_ok fun h => nomatch hrest.symm.trans h
        · rename_i hrest
          rw [hrest]
          simp
        · rename_i hrest
          exact iff_of_false error_ne_ok fun h => nomatch hrest.symm.trans h
        · rename_i hquote _
          exact iff_of_false error_ne_ok fun h => hquote _ h
      · rename_i hcomma
        exact iff_of_false error_ne_ok fun ⟨_, h, _⟩ => hcomma (List.cons.inj h).1

theorem closeObject_eq_ok {cs rest : List Char} :
    closeObject cs = .ok ((), rest) ↔ skipBlanks cs = '}' :: rest := by
  unfold closeObject
  split
  · rename_i heq
    exact iff_of_false error_ne_ok fun h => nomatch heq.symm.trans h
  · rename_i heq
    rw [heq]
    simp
  · rename_i heq
    exact iff_of_false error_ne_ok fun h => nomatch heq.symm.trans h
  · rename_i hbrace _
    exact iff_of_false error_ne_ok fun h => hbrace _ h

/-- A choice that is made outside of the text leaves the text as it is. -/
theorem lift_eq_ok {α : Type} {x : Except Error α} {cs ds : List Char} {a : α} :
    (liftM x : Scan α) cs = .ok (a, ds) ↔ x = .ok a ∧ cs = ds := by
  cases x with
  | error e => exact iff_of_false error_ne_ok fun h => nomatch h.1
  | ok b =>
    show Except.ok (b, cs) = _ ↔ _
    simp

section Objects

variable {σ α : Type} {step : String → σ → Except Error (Scan σ)}
  {V : String → List Char → α → List Char → Prop} {put : String → α → σ → σ → Prop}

/-- One turn of the reading of entries: the end of the object, or an entry and the others. -/
theorem entriesFrom_succ_eq_ok {fuel : Nat} {first : Bool} {s t : σ} {cs rest : List Char} :
    entriesFrom step (fuel + 1) first s cs = .ok (t, rest) ↔
      (skipBlanks cs = '}' :: rest ∧ s = t) ∨
        ∃ ds key es read u fs, LeadsTo first cs ds ∧ KeyAt true ds key.toList es ∧
          step key s = .ok read ∧ read es = .ok (u, fs) ∧
            entriesFrom step fuel false u fs = .ok (t, rest) := by
  simp only [entriesFrom]
  constructor
  · intro h
    obtain ⟨more, ds, hkey, h⟩ := step_bind_eq_ok.1 h
    cases more with
    | false =>
      obtain ⟨rest', hend, rfl⟩ := nextKey_end.1 hkey
      obtain ⟨⟨⟩, es, hclose, h⟩ := step_bind_eq_ok.1 h
      cases h
      exact .inl ⟨hend.trans (closeObject_eq_ok.1 hclose), rfl⟩
    | true =>
      obtain ⟨es, hleads, hquote⟩ := nextKey_key.1 hkey
      obtain ⟨key, fs, htext, h⟩ := step_bind_eq_ok.1 h
      obtain ⟨read, gs, hstep, h⟩ := step_bind_eq_ok.1 h
      obtain ⟨hread, rfl⟩ := lift_eq_ok.1 hstep
      obtain ⟨⟨⟩, hs, hcolon, h⟩ := step_bind_eq_ok.1 h
      obtain ⟨u, is, hvalue, hothers⟩ := step_bind_eq_ok.1 h
      exact .inr ⟨es, key, hs, read, u, is, hleads,
        ⟨ds, fs, hquote, textRest_eq_ok.1 htext, colon_eq_ok.1 hcolon⟩, hread, hvalue, hothers⟩
  · rintro (⟨hend, rfl⟩ | ⟨ds, key, es, read, u, fs, hleads, ⟨gs, hs, hquote, htext, hcolon⟩, hread,
      hvalue, hothers⟩)
    · rw [bind_of_ok (nextKey_end.2 ⟨rest, hend, rfl⟩), if_neg Bool.false_ne_true,
        bind_of_ok (closeObject_brace rest)]
      rfl
    · rw [bind_of_ok (nextKey_key.2 ⟨ds, hleads, hquote⟩), if_pos rfl,
        bind_of_ok (textRest_eq_ok.2 htext), bind_of_ok (lift_eq_ok.2 ⟨hread, rfl⟩),
        bind_of_ok (colon_eq_ok.2 hcolon), bind_of_ok hvalue]
      exact hothers

variable (hstep : ∀ key s cs t rest, (∃ read, step key s = .ok read ∧ read cs = .ok (t, rest)) ↔
  ∃ a, V key cs a rest ∧ put key a s t)

include hstep

theorem fills_of_entriesFrom {fuel : Nat} {first : Bool} {s t : σ} {cs rest : List Char}
    (h : entriesFrom step fuel first s cs = .ok (t, rest)) :
    ∃ es, MembersAt .object (EntryAt V) first cs es rest ∧ Fills put es s t := by
  induction fuel generalizing first s cs with
  | zero => cases h
  | succ fuel ih =>
    rcases entriesFrom_succ_eq_ok.1 h with ⟨hend, rfl⟩ |
      ⟨ds, key, gs, read, u, fs, hleads, hkey, hread, hvalue, hothers⟩
    · exact ⟨[], .close hend, .nil s⟩
    · obtain ⟨a, ha, hput⟩ := (hstep key s gs u fs).1 ⟨read, hread, hvalue⟩
      obtain ⟨es, hes, hfills⟩ := ih hothers
      exact ⟨(key, a) :: es, .more hleads ⟨gs, hkey, ha⟩ hes, .cons hput hfills⟩

theorem entriesFrom_of_fills (hshorter : ∀ key cs a rest, V key cs a rest → rest.length ≤ cs.length)
    {first : Bool} {es : List (String × α)} {s t : σ} {cs rest : List Char}
    (hes : MembersAt .object (EntryAt V) first cs es rest) (hfills : Fills put es s t) {fuel : Nat}
    (hfuel : cs.length < fuel) : entriesFrom step fuel first s cs = .ok (t, rest) := by
  induction hes generalizing s fuel with
  | close hend =>
    cases hfills
    cases fuel with
    | zero => cases hfuel
    | succ fuel => exact entriesFrom_succ_eq_ok.2 (.inl ⟨hend, rfl⟩)
  | @more first cs ds gs rest e es hleads hentry _ ih =>
    cases hfills with
    | @cons key a _ _ u _ hput hrest =>
      obtain ⟨hs, hkey, ha⟩ := hentry
      obtain ⟨read, hread, hvalue⟩ := (hstep key s hs u gs).2 ⟨a, ha, hput⟩
      have hds := hleads.length_le
      have hhs := hkey.length_lt
      have hgs := hshorter key hs a gs ha
      cases fuel with
      | zero => cases hfuel
      | succ fuel =>
        exact entriesFrom_succ_eq_ok.2
          (.inr ⟨ds, key, hs, read, u, gs, hleads, hkey, hread, hvalue, ih hrest (by omega)⟩)

/-- Entries are read as the grammar says, and put into the state one after another. -/
theorem entries_eq_ok (hshorter : ∀ key cs a rest, V key cs a rest → rest.length ≤ cs.length)
    {s t : σ} {cs rest : List Char} :
    entries step s cs = .ok (t, rest) ↔
      ∃ es, MembersAt .object (EntryAt V) true cs es rest ∧ Fills put es s t :=
  ⟨fills_of_entriesFrom hstep, fun ⟨_, hes, hfills⟩ =>
    entriesFrom_of_fills hstep hshorter hes hfills (Nat.lt_succ_self _)⟩

end Objects

/-! ### Lists -/

theorem nextElement_end {first : Bool} {cs ds : List Char} :
    nextElement first cs = .ok (false, ds) ↔
      ∃ rest, skipBlanks cs = ']' :: rest ∧ ds = ']' :: rest := by
  unfold nextElement
  split
  · rename_i heq
    exact iff_of_false error_ne_ok fun ⟨_, h, _⟩ => nomatch heq.symm.trans h
  · rename_i rest heq
    refine ⟨fun h => ?_, fun ⟨rest', h, hds⟩ => ?_⟩
    · cases h
      exact ⟨rest, heq, rfl⟩
    · rw [hds, (List.cons.inj (heq.symm.trans h)).2]
  · rename_i hbracket heq
    refine iff_of_false (fun h => ?_) fun ⟨rest, h, _⟩ =>
      hbracket (List.cons.inj (heq.symm.trans h)).1
    repeat' split at h
    all_goals cases h

/-- A text that an element can start with. -/
def StartsElement (cs : List Char) : Prop := ∃ c more, skipBlanks cs = c :: more ∧ c ≠ ']'

theorem nextElement_element {first : Bool} {cs ds : List Char} :
    nextElement first cs = .ok (true, ds) ↔
      ∃ es, LeadsTo first cs es ∧ StartsElement es ∧ skipBlanks es = ds := by
  cases first with
  | true =>
    simp only [leadsTo_first, exists_eq_left']
    unfold nextElement StartsElement
    split
    · rename_i heq
      exact iff_of_false error_ne_ok fun ⟨⟨_, _, h, _⟩, _⟩ => nomatch heq.symm.trans h
    · rename_i heq
      refine iff_of_false (fun h => nomatch h) fun ⟨⟨_, _, h, hne⟩, _⟩ => ?_
      exact hne (List.cons.inj (heq.symm.trans h)).1.symm
    · rename_i c rest hbracket heq
      rw [if_pos rfl, heq]
      refine ⟨fun h => ?_, fun ⟨_, h⟩ => by rw [h]⟩
      cases h
      exact ⟨⟨c, rest, rfl, hbracket⟩, rfl⟩
  | false =>
    simp only [leadsTo_later]
    unfold nextElement StartsElement
    split
    · rename_i heq
      exact iff_of_false error_ne_ok fun ⟨_, h, _⟩ => nomatch heq.symm.trans h
    · rename_i heq
      exact iff_of_false (fun h => nomatch h) fun ⟨_, h, _⟩ => nomatch heq.symm.trans h
    · rename_i c rest _ heq
      rw [if_neg Bool.false_ne_true, heq]
      split
      · rename_i hcomma
        simp only [hcomma, List.cons.injEq, true_and, exists_eq_left']
        split
        · rename_i hrest
          exact iff_of_false error_ne_ok fun ⟨⟨_, _, h, _⟩, _⟩ =>
            nomatch hrest.symm.trans h
        · rename_i hrest
          refine iff_of_false error_ne_ok fun ⟨⟨_, _, h, hne⟩, _⟩ => ?_
          exact hne (List.cons.inj (hrest.symm.trans h)).1.symm
        · rename_i hnil hbracket
          refine ⟨fun h => ?_, fun ⟨_, h⟩ => by rw [h]⟩
          cases h
          obtain ⟨d, more, hd⟩ := List.exists_cons_of_ne_nil hnil
          exact ⟨⟨d, more, hd, fun he => hbracket more (by rw [hd, he])⟩, rfl⟩
      · rename_i hcomma
        exact iff_of_false error_ne_ok fun ⟨_, h, _⟩ => hcomma (List.cons.inj h).1

theorem closeList_eq_ok {cs rest : List Char} :
    closeList cs = .ok ((), rest) ↔ skipBlanks cs = ']' :: rest := by
  unfold closeList
  split
  · rename_i heq
    exact iff_of_false error_ne_ok fun h => nomatch heq.symm.trans h
  · rename_i heq
    rw [heq]
    simp
  · rename_i heq
    refine iff_of_false (fun h => ?_) fun h => nomatch heq.symm.trans h
    split at h <;> cases h
  · rename_i hbracket _
    exact iff_of_false error_ne_ok fun h => hbracket _ h

section Lists

variable {σ α : Type} {P : List Char → α → List Char → Prop} {default : α} {depth : Nat}

/-- A field whose values have a grammar, with the way in which they are put into the draft. -/
structure Field.Takes (f : Field σ) (depth : Nat) (P : List Char → α → List Char → Prop)
    (default : α) (set : σ → α → σ) : Prop where
  read : ∀ s cs t rest, f.read s depth cs = .ok (t, rest) ↔ ∃ a, P cs a rest ∧ t = set s a
  fallback : f.fallback = some fun s => set s default

theorem Field.takes_of {name : String} {reader : Reader α} {get : σ → Option α} {set : σ → α → σ}
    (h : ∀ cs a rest, reader depth cs = .ok (a, rest) ↔ P cs a rest) :
    (Field.of name reader get set (some default)).Takes depth P default set where
  read s cs t rest := by
    show (set s <$> reader depth) cs = _ ↔ _
    rw [map_eq_pure_bind, step_bind_eq_ok]
    constructor
    · rintro ⟨a, ds, ha, hset⟩
      cases hset
      exact ⟨a, (h cs a rest).1 ha, rfl⟩
    · rintro ⟨a, ha, rfl⟩
      exact ⟨a, rest, (h cs a rest).2 ha, rfl⟩
  fallback := rfl

/-- A draft with values for its fields in order, and the default for those that have none. -/
def filled (default : α) : List (σ → α → σ) → List α → σ → σ
  | [], _, s => s
  | set :: sets, [], s => filled default sets [] (set s default)
  | set :: sets, a :: as, s => filled default sets as (set s a)

/-- The list form of a record is a list of at most as many values as there are fields. -/
theorem positional_eq_ok (hblanks : ∀ cs a rest, P (skipBlanks cs) a rest ↔ P cs a rest)
    (hstarts : ∀ cs a rest, P cs a rest → StartsElement cs)
    {fields : List (Field σ × (σ → α → σ))} (hfields : ∀ f ∈ fields, f.1.Takes depth P default f.2)
    (title : String) (index : Nat) {s t : σ} {cs rest : List Char} :
    (∃ ds, Record.positional title depth (fields.map Prod.fst) index s cs = .ok (t, ds) ∧
        skipBlanks ds = ']' :: rest) ↔
      ∃ as, MembersAt .list P (index = 0) cs as rest ∧ as.length ≤ fields.length ∧
        t = filled default (fields.map Prod.snd) as s := by
  induction fields generalizing index s cs with
  | nil =>
    constructor
    · rintro ⟨ds, h, hclose⟩
      cases h
      exact ⟨[], .close hclose, Nat.le_refl 0, rfl⟩
    · rintro ⟨as, has, hlength, rfl⟩
      obtain rfl := List.length_eq_zero_iff.1 (Nat.le_zero.1 hlength)
      cases has with
      | close hclose => exact ⟨cs, rfl, hclose⟩
  | cons f fields ih =>
    have hf := hfields f List.mem_cons_self
    have hrest := @ih fun g hg => hfields g (List.mem_cons_of_mem f hg)
    have hlater : decide (index + 1 = 0) = false := decide_eq_false (Nat.succ_ne_zero index)
    constructor
    · rintro ⟨ds, h, hclose⟩
      obtain ⟨more, es, hnext, h⟩ := step_bind_eq_ok.1 h
      cases more with
      | false =>
        obtain ⟨rest', hend, rfl⟩ := nextElement_end.1 hnext
        rw [if_neg Bool.false_ne_true, hf.fallback] at h
        obtain ⟨as, has, _, rfl⟩ := (hrest (index + 1)).1 ⟨ds, h, hclose⟩
        -- Nothing but the end of the list is left for the other fields.
        cases has with
        | close hclose' =>
          cases hclose'
          exact ⟨[], .close hend, Nat.zero_le _, rfl⟩
        | more hleads _ _ =>
          rw [hlater] at hleads
          cases hleads
      | true =>
        obtain ⟨gs, hleads, _, rfl⟩ := nextElement_element.1 hnext
        obtain ⟨u, fs, hread, h⟩ := step_bind_eq_ok.1 h
        obtain ⟨a, ha, rfl⟩ := (hf.read s _ u fs).1 hread
        obtain ⟨as, has, hlength, rfl⟩ := (hrest (index + 1)).1 ⟨ds, h, hclose⟩
        rw [hlater] at has
        exact ⟨a :: as, .more hleads ((hblanks gs a fs).1 ha) has, Nat.succ_le_succ hlength, rfl⟩
    · rintro ⟨as, has, hlength, rfl⟩
      cases has with
      | close hclose =>
        have hempty : MembersAt .list P (decide (index + 1 = 0)) (']' :: rest) [] rest := .close rfl
        obtain ⟨ds, h, hend⟩ := (hrest (index + 1)).2 ⟨[], hempty, Nat.zero_le _, rfl⟩
        refine ⟨ds, ?_, hend⟩
        show (nextElement (index = 0) >>= _ : Scan σ) cs = _
        rw [bind_of_ok (nextElement_end.2 ⟨rest, hclose, rfl⟩), if_neg Bool.false_ne_true,
          hf.fallback]
        exact h
      | @more _ _ gs fs _ a as hleads ha has =>
        rw [← hlater] at has
        obtain ⟨ds, h, hend⟩ :=
          (hrest (index + 1)).2 ⟨as, has, Nat.le_of_succ_le_succ hlength, rfl⟩
        have hnext := nextElement_element.2 ⟨gs, hleads, hstarts gs a fs ha, rfl⟩
        have hread := (hf.read s (skipBlanks gs) _ fs).2 ⟨a, (hblanks gs a fs).2 ha, rfl⟩
        refine ⟨ds, ?_, hend⟩
        show (nextElement (index = 0) >>= _ : Scan σ) cs = _
        rw [bind_of_ok hnext, if_pos rfl, bind_of_ok hread]
        exact h

end Lists

/-! ### Records -/

namespace Record

variable {σ α : Type} {r : Record σ α} {depth : Nat} {cs rest : List Char}

/-- The value of a key that is no field of the record is passed over. -/
theorem entry_unknown {key : String} (hfind : r.fields.find? (·.name == key) = none) {s t : σ} :
    (∃ read, r.entry depth key s = .ok read ∧ read cs = .ok (t, rest)) ↔ ValueAt cs rest ∧ t = s := by
  simp only [entry, hfind, Except.ok.injEq, exists_eq_left']
  rw [step_bind_eq_ok]
  constructor
  · rintro ⟨⟨⟩, ds, hskip, hdraft⟩
    cases hdraft
    exact ⟨skip_eq_ok.1 hskip, rfl⟩
  · rintro ⟨hvalue, rfl⟩
    exact ⟨(), rest, skip_eq_ok.2 hvalue, rfl⟩

/-- The value of a field is read into a draft that does not have the field. -/
theorem entry_field {key : String} {f : Field σ}
    (hfind : r.fields.find? (·.name == key) = some f) {s t : σ} :
    (∃ read, r.entry depth key s = .ok read ∧ read cs = .ok (t, rest)) ↔
      f.filled s = false ∧ f.read s depth cs = .ok (t, rest) := by
  simp only [entry, hfind]
  cases f.filled s with
  | true =>
    refine iff_of_false ?_ fun h => Bool.noConfusion h.1
    rintro ⟨_, h, _⟩
    exact error_ne_ok h
  | false => simp

/-- A record is read from a list of its fields or from an object, one level deeper. -/
theorem reader_eq_ok {a : α} :
    r.reader (depth + 1) cs = .ok (a, rest) ↔
      (∃ ds es s, skipBlanks cs = '[' :: ds ∧
        positional r.listTitle depth r.fields 0 r.blank ds = .ok (s, es) ∧
        skipBlanks es = ']' :: rest ∧ r.finish s = .ok a) ∨
      ∃ ds s, skipBlanks cs = '{' :: ds ∧ entries (r.entry depth) r.blank ds = .ok (s, rest) ∧
        r.finish s = .ok a := by
  unfold reader
  split
  · rename_i ds hds
    rw [hds]
    show r.ofList depth ds = _ ↔ _
    constructor
    · intro h
      obtain ⟨s, es, hfields, h⟩ := step_bind_eq_ok.1 h
      obtain ⟨b, gs, hmade, h⟩ := step_bind_eq_ok.1 h
      obtain ⟨hfinish, rfl⟩ := lift_eq_ok.1 hmade
      obtain ⟨⟨⟩, hs, hclose, h⟩ := step_bind_eq_ok.1 h
      cases h
      exact .inl ⟨ds, es, s, rfl, hfields, closeList_eq_ok.1 hclose, hfinish⟩
    · rintro (⟨ds, es, s, hopen, hfields, hclose, hfinish⟩ | ⟨_, _, hopen, _⟩)
      · cases hopen
        simp only [ofList]
        rw [bind_of_ok hfields, bind_of_ok (lift_eq_ok.2 ⟨hfinish, rfl⟩),
          bind_of_ok (closeList_eq_ok.2 hclose)]
        rfl
      · cases hopen
  · rename_i ds hds
    rw [hds]
    show r.ofObject depth ds = _ ↔ _
    constructor
    · intro h
      obtain ⟨s, es, hentries, h⟩ := step_bind_eq_ok.1 h
      obtain ⟨hfinish, rfl⟩ := lift_eq_ok.1 h
      exact .inr ⟨ds, s, rfl, hentries, hfinish⟩
    · rintro (⟨_, _, _, hopen, _⟩ | ⟨ds, s, hopen, hentries, hfinish⟩)
      · cases hopen
      · cases hopen
        simp only [ofObject]
        rw [bind_of_ok hentries]
        exact lift_eq_ok.2 ⟨hfinish, rfl⟩
  · rename_i hlist hobject
    refine iff_of_false error_ne_ok ?_
    rintro (⟨ds, _, _, hopen, _⟩ | ⟨ds, _, hopen, _⟩)
    · exact hlist ds hopen
    · exact hobject ds hopen

end Record

/-- A whole text is a value with nothing but white space after it. -/
theorem Reader.run_eq_ok {α : Type} {read : Reader α} {text : String} {a : α} :
    read.run text = .ok a ↔
      ∃ rest, read deepest text.toList = .ok (a, rest) ∧ skipBlanks rest = [] := by
  simp only [run]
  rw [bind_eq_ok]
  constructor
  · rintro ⟨⟨b, rest⟩, hread, h⟩
    split at h
    · rename_i hend
      cases h
      exact ⟨rest, hread, List.isEmpty_iff.1 hend⟩
    · cases h
  · rintro ⟨rest, hread, hend⟩
    exact ⟨(a, rest), hread, if_pos (List.isEmpty_iff.2 hend)⟩

end Roster.Json
