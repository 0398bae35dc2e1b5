import Roster.Proofs.Settings.Leaves
import Roster.Proofs.Text.Lowercase
import Roster.Settings.Loader
import Mathlib.Data.List.TakeWhile

/-!
# What sources say about a setting

A source is a list of entries. What it says about a single setting is found in the entry of the section,
which is a table, and in entries whose key is a path to the setting. The case of a key means nothing.

* `Leaf.sayings` is what an entry says about a setting; `RawValue.laid` lays one such saying on what has
  been said before.
* `Leaf.seen_assignAll` is the reason for everything else: what a table has for a setting after a source
  has been laid on it depends on what it had before and on what the source says about this very setting.
-/

namespace Roster

open Roster.Text

/-! ### Laying values -/

namespace RawValue

/-- Whether a value is a table. -/
def isTable : RawValue → Bool
  | table _ _ => true
  | _ => false

theorem isTable_iff {v : RawValue} : v.isTable = true ↔ ∃ es source, v = .table es source := by
  cases v with
  | null | scalar _ _ | list _ _ => exact ⟨fun h => (nomatch h), fun ⟨_, _, h⟩ => (nomatch h)⟩
  | table es source => exact ⟨fun _ => ⟨es, source, rfl⟩, fun _ => rfl⟩

/-- What is said about a setting: a value for it, or for something at some steps below it. -/
abbrev Saying := List PathStep × RawValue

/-- What a setting has after something is said about it, on top of what it had before. -/
def laid (old : Option RawValue) : Saying → RawValue
  | ([], .table [] _) => old.getD (.table [] none)
  | ([], .table (e :: es) _) => .table (setEntries (old.elim [] entries) (e :: es)) none
  | ([], v) => v
  | (step :: steps, v) => assignBelow (old.getD null) (step :: steps) v

/-- What a setting has when nothing was said before. -/
def alone (x : Saying) : RawValue := laid none x

theorem get?_setEntry (t : Table) (key k : String) (v : RawValue) :
    Keyed.get? (setEntry t key v) k =
      if lowered key = k then some (laid (Keyed.get? t k) ([], v)) else Keyed.get? t k := by
  unfold setEntry
  split
  · rw [Keyed.has_eq_isSome]
    by_cases hk : lowered key = k
    · subst hk
      rw [if_pos rfl]
      cases hold : Keyed.get? t (lowered key) with
      | none => simp [laid, Keyed.get?_put]
      | some old => simp [laid, hold]
    · rw [if_neg hk]
      split
      · rfl
      · rw [Keyed.get?_put, if_neg hk]
  · rw [Keyed.get?_put]
    by_cases hk : lowered key = k
    · subst hk
      rw [if_pos rfl, if_pos rfl]
      rfl
    · rw [if_neg hk, if_neg hk]
  · rename_i hempty htable
    rw [Keyed.get?_put]
    by_cases hk : lowered key = k
    · rw [if_pos hk, if_pos hk]
      unfold laid
      split <;> simp_all
    · rw [if_neg hk, if_neg hk]

/-- Lays what is said about a setting on what it had before. -/
def lay (old : Option RawValue) (x : Saying) : Option RawValue := some (laid old x)

/-- What the entries of a section say about the setting with a name. -/
def saidIn (key : String) (es : Table) : List Saying :=
  (es.filter fun e => lowered e.1 = key).map fun e => ([], e.2)

theorem get?_setEntries (t es : Table) (key : String) :
    Keyed.get? (setEntries t es) key = (saidIn key es).foldl lay (Keyed.get? t key) := by
  induction es generalizing t with
  | nil =>
    simp only [setEntries]
    rfl
  | cons e es ih =>
    obtain ⟨k, v⟩ := e
    simp only [setEntries]
    rw [ih, get?_setEntry]
    by_cases hk : lowered k = key <;> simp [saidIn, hk, lay]

end RawValue

/-! ### Paths -/

namespace SettingPath

theorem eq_nil_of_stepsFrom {fuel : Nat} {cs : List Char} (h : stepsFrom fuel cs = some []) : cs = [] := by
  unfold stepsFrom at h
  split at h
  · rfl
  · cases h
  · dsimp only at h
    split at h
    · cases h
    · cases hrest : stepsFrom _ _ <;> rw [hrest] at h <;> cases h
  · split at h
    · cases hrest : stepsFrom _ _ <;> rw [hrest] at h <;> cases h
    · cases h
  · cases h

/-- A path without steps is the key itself. -/
theorem first_eq {cs : List Char} {first : String} (h : ofText? cs = some ⟨first, []⟩) :
    first = String.ofList cs := by
  simp only [ofText?] at h
  split at h
  · cases h
  · obtain ⟨steps, hsteps, hpath⟩ := Option.map_eq_some_iff.1 h
    cases hpath
    have hwhole := List.takeWhile_append_dropWhile (p := inName) (l := cs)
    rw [eq_nil_of_stepsFrom hsteps, List.append_nil] at hwhole
    rw [hwhole]

end SettingPath

namespace Part

theorem simple_name (c : Part) : c.name.toList.all isSimpleLetter = true := by
  cases c <;> decide +kernel

/-- The name of a section is no path to a part of it. -/
theorem ofText?_of_lowered {c : Part} {key : String} (h : lowered key = c.name) :
    SettingPath.ofText? key.toList = some ⟨key, []⟩ := by
  have hlatin := latin_of_lowered h c.simple_name
  have hname : ∀ d ∈ key.toList, SettingPath.inName d = true := by
    intro d hd
    simp only [SettingPath.inName, hlatin d hd, Bool.true_or]
  have hnonempty : key.toList ≠ [] := by
    intro hnil
    obtain rfl : key = "" := String.toList_eq_nil_iff.1 hnil
    cases c <;> exact absurd h (by decide)
  simp only [SettingPath.ofText?]
  rw [List.takeWhile_eq_self_iff.2 hname, List.dropWhile_eq_nil_iff.2 hname]
  simp [hnonempty, SettingPath.stepsFrom]

/-- An entry says something about a section. -/
def Names (c : Part) (e : String × RawValue) : Prop :=
  lowered e.1 = c.name ∨ ∃ step steps, SettingPath.ofText? e.1.toList = some ⟨c.name, step :: steps⟩

/-- What an entry says about a section, it says about settings by their names: it gives the section as a
table or is about one of its settings. It does not put a single value or a list in its place. -/
def ByName (c : Part) (e : String × RawValue) : Prop :=
  (lowered e.1 = c.name → ∃ es source, e.2 = .table es source) ∧
    ∀ step steps, SettingPath.ofText? e.1.toList = some ⟨c.name, step :: steps⟩ → ∃ k, step = .name k

/-- Whether a key leads to a setting of a section by its name, if it leads into the section. -/
def leadsByName (c : Part) (key : String) : Bool :=
  match SettingPath.ofText? key.toList with
  | some ⟨first, .index _ :: _⟩ => first != c.name
  | _ => true

theorem leadsByName_iff {c : Part} {key : String} :
    c.leadsByName key = true ↔
      ∀ step steps, SettingPath.ofText? key.toList = some ⟨c.name, step :: steps⟩ →
        ∃ k, step = .name k := by
  simp only [leadsByName]
  constructor
  · rintro h (k | i) steps hpath
    · exact ⟨k, rfl⟩
    · rw [hpath] at h
      simp at h
  · intro h
    split
    · rename_i first i steps hpath
      refine bne_iff_ne.2 ?_
      rintro rfl
      obtain ⟨k, hk⟩ := h _ _ hpath
      cases hk
    · rfl

instance (c : Part) (e : String × RawValue) : Decidable (c.ByName e) :=
  decidable_of_iff ((lowered e.1 = c.name → e.2.isTable = true) ∧ c.leadsByName e.1 = true)
    (and_congr (imp_congr_right fun _ => RawValue.isTable_iff) leadsByName_iff)

/-- A section is a table, or is not there. -/
def IsTable (c : Part) (t : RawValue.Table) : Prop :=
  ∀ v, Keyed.get? t c.name = some v → ∃ es source, v = .table es source

/-- The entries of a section. -/
def entriesIn (c : Part) (t : RawValue.Table) : RawValue.Table :=
  (Keyed.get? t c.name).elim [] RawValue.entries

end Part

namespace Leaf

open RawValue

/-- What an entry says about a setting. -/
def sayings (l : Leaf) (e : String × RawValue) : List Saying :=
  if lowered e.1 = l.part.name then saidIn l.key e.2.entries
  else match SettingPath.ofText? e.1.toList with
    | some ⟨first, [.name k]⟩ => if first = l.part.name then saidIn l.key [(k, e.2)] else []
    | some ⟨first, .name k :: steps⟩ =>
      if first = l.part.name ∧ k = l.key then [(steps, e.2)] else []
    | _ => []

/-- What a table has for a setting. -/
def seen (l : Leaf) (t : Table) : Option RawValue := Keyed.get? (l.part.entriesIn t) l.key

end Leaf

namespace Part

open RawValue

variable {c : Part} {t : Table} {e : String × RawValue}

/-- An entry that does not name a section leaves it as it is. -/
theorem get?_assign_of_not_names (h : ¬ c.Names e) :
    Keyed.get? (assign t e.1 e.2) c.name = Keyed.get? t c.name := by
  have hkey : lowered e.1 ≠ c.name := fun hkey => h (.inl hkey)
  simp only [assign]
  split
  · rename_i first hpath
    rw [SettingPath.first_eq hpath, String.ofList_toList, get?_setEntry, if_neg hkey]
  · rename_i first steps hsteps hpath
    have hfirst : first ≠ c.name := by
      rintro rfl
      cases steps with
      | nil => exact hsteps rfl
      | cons step steps => exact h (.inr ⟨step, steps, hpath⟩)
    rw [Keyed.get?_put, if_neg hfirst]
  · rw [get?_setEntry, if_neg hkey]

/-- An entry that names a section leaves something there. -/
theorem has_assign_of_names (h : c.Names e) : Keyed.has (assign t e.1 e.2) c.name = true := by
  rw [Keyed.has_eq_isSome]
  simp only [assign]
  rcases h with hkey | ⟨step, steps, hpath⟩
  · rw [ofText?_of_lowered hkey]
    dsimp only
    rw [get?_setEntry, if_pos hkey]
    rfl
  · rw [hpath]
    dsimp only
    rw [Keyed.get?_put, if_pos rfl]
    rfl

theorem IsTable.cases (h : c.IsTable t) :
    Keyed.get? t c.name = none ∧ c.entriesIn t = [] ∨
      ∃ source, Keyed.get? t c.name = some (.table (c.entriesIn t) source) := by
  simp only [entriesIn]
  cases hc : Keyed.get? t c.name with
  | none => exact .inl ⟨rfl, rfl⟩
  | some v =>
    obtain ⟨es, source, rfl⟩ := h v hc
    exact .inr ⟨source, rfl⟩

/-- What a section holds after an entry that gives it as a table. -/
theorem assign_table (htable : c.IsTable t) (hkey : lowered e.1 = c.name) {es : Table}
    {source : Option String} (hes : e.2 = .table es source) :
    ∃ source', Keyed.get? (assign t e.1 e.2) c.name =
      some (.table (setEntries (c.entriesIn t) es) source') := by
  simp only [assign]
  rw [ofText?_of_lowered hkey]
  dsimp only
  rw [get?_setEntry, if_pos hkey, hes]
  rcases htable.cases with ⟨hnone, hempty⟩ | ⟨source', hsome⟩
  · rw [hnone, hempty]
    cases es with
    | nil => exact ⟨none, rfl⟩
    | cons e es => exact ⟨none, rfl⟩
  · rw [hsome]
    cases es with
    | nil => exact ⟨source', rfl⟩
    | cons e es => exact ⟨none, rfl⟩

/-- What a section holds after an entry about one of its settings. -/
theorem assign_setting (htable : c.IsTable t) {k : String}
    (hpath : SettingPath.ofText? e.1.toList = some ⟨c.name, [.name k]⟩) :
    ∃ source', Keyed.get? (assign t e.1 e.2) c.name =
      some (.table (setEntries (c.entriesIn t) [(k, e.2)]) source') := by
  simp only [assign]
  rw [hpath]
  dsimp only
  rw [Keyed.get?_put, if_pos rfl]
  rcases htable.cases with ⟨hnone, hempty⟩ | ⟨source', hsome⟩
  · rw [hnone, hempty]
    exact ⟨none, rfl⟩
  · rw [hsome]
    exact ⟨source', rfl⟩

/-- What a section holds after an entry about something below one of its settings. -/
theorem assign_below (htable : c.IsTable t) {k : String} {step : PathStep} {steps : List PathStep}
    (hpath : SettingPath.ofText? e.1.toList = some ⟨c.name, .name k :: step :: steps⟩) :
    ∃ source', Keyed.get? (assign t e.1 e.2) c.name = some (.table (Keyed.put (c.entriesIn t) k
      (laid (Keyed.get? (c.entriesIn t) k) (step :: steps, e.2))) source') := by
  simp only [assign]
  rw [hpath]
  dsimp only
  rw [Keyed.get?_put, if_pos rfl]
  rcases htable.cases with ⟨hnone, hempty⟩ | ⟨source', hsome⟩
  · rw [hnone, hempty]
    exact ⟨none, rfl⟩
  · rw [hsome]
    exact ⟨source', rfl⟩

theorem isTable_of_get? {es : Table} {source : Option String}
    (h : Keyed.get? t c.name = some (.table es source)) : c.IsTable t ∧ c.entriesIn t = es := by
  refine ⟨fun v hv => ?_, ?_⟩
  · rw [h] at hv
    cases hv
    exact ⟨es, source, rfl⟩
  · simp only [entriesIn, h]
    rfl

end Part

namespace Leaf

open RawValue

variable {l : Leaf} {t : Table} {e : String × RawValue}

theorem sayings_of_not_names (h : ¬ l.part.Names e) : l.sayings e = [] := by
  simp only [sayings]
  rw [if_neg fun hkey => h (.inl hkey)]
  split
  · rename_i first k hpath
    refine if_neg ?_
    rintro rfl
    exact h (.inr ⟨_, _, hpath⟩)
  · rename_i first k steps hsteps hpath
    refine if_neg ?_
    rintro ⟨rfl, rfl⟩
    exact h (.inr ⟨_, _, hpath⟩)
  · rfl

/-- An entry leaves a section a table, and lays what it says about each setting on what was there. -/
theorem seen_assign (htable : l.part.IsTable t) (hname : l.part.ByName e) :
    l.part.IsTable (assign t e.1 e.2) ∧
      l.seen (assign t e.1 e.2) = (l.sayings e).foldl lay (l.seen t) := by
  by_cases hnames : ¬ l.part.Names e
  · -- the entry is about another section
    have hsame := Part.get?_assign_of_not_names (t := t) hnames
    rw [sayings_of_not_names hnames]
    refine ⟨fun v hv => htable v (hsame ▸ hv), ?_⟩
    simp only [seen, Part.entriesIn, hsame]
    rfl
  have hnames := Classical.not_not.1 hnames
  by_cases hkey : lowered e.1 = l.part.name
  · -- it gives the section as a table
    obtain ⟨es, source, hes⟩ := hname.1 hkey
    obtain ⟨source', hget⟩ := Part.assign_table htable hkey hes
    obtain ⟨hafter, hentries⟩ := Part.isTable_of_get? hget
    refine ⟨hafter, ?_⟩
    simp only [seen, sayings, hentries, if_pos hkey]
    rw [get?_setEntries, hes]
    rfl
  obtain ⟨step, steps, hpath⟩ := hnames.resolve_left hkey
  obtain ⟨k, rfl⟩ := hname.2 step steps hpath
  cases steps with
  | nil =>
    -- it gives one setting of it
    obtain ⟨source', hget⟩ := Part.assign_setting htable hpath
    obtain ⟨hafter, hentries⟩ := Part.isTable_of_get? hget
    refine ⟨hafter, ?_⟩
    simp only [seen, sayings, hentries, if_neg hkey, hpath, if_true]
    exact get?_setEntries _ _ _
  | cons step steps =>
    -- it gives something below one setting
    obtain ⟨source', hget⟩ := Part.assign_below htable hpath
    obtain ⟨hafter, hentries⟩ := Part.isTable_of_get? hget
    refine ⟨hafter, ?_⟩
    simp only [seen, sayings, hentries, if_neg hkey, hpath, true_and]
    rw [Keyed.get?_put]
    by_cases hk : k = l.key
    · subst hk
      rw [if_pos rfl, if_pos rfl]
      rfl
    · rw [if_neg hk, if_neg hk]
      rfl

/-- What a table has for a setting after a source has been laid on it depends on what it had before and
on what the source says about this setting. -/
theorem seen_assignAll {source : List (String × RawValue)} (htable : l.part.IsTable t)
    (hnames : ∀ e ∈ source, l.part.ByName e) :
    l.part.IsTable (assignAll t source) ∧
      l.seen (assignAll t source) = (source.flatMap l.sayings).foldl lay (l.seen t) := by
  induction source generalizing t with
  | nil => exact ⟨htable, rfl⟩
  | cons e source ih =>
    obtain ⟨hafter, hseen⟩ := seen_assign htable (hnames e List.mem_cons_self)
    obtain ⟨hend, hall⟩ := ih hafter fun e' he' => hnames e' (List.mem_cons_of_mem e he')
    refine ⟨hend, ?_⟩
    rw [List.flatMap_cons, List.foldl_append, ← hseen]
    exact hall

end Leaf

end Roster
