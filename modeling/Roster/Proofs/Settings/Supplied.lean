import Roster.Proofs.Settings.Layers

/-!
# Settings that are given in part

Layers may give any of the settings, each one a value of its kind. What they do not give has its default,
in each section but the one about the application: once a layer names that one, all of it has to be given.

* `LeafKind.Fits` says which raw values are values of a kind; nothing has to be converted then.
* `Settings.loaded_of_supplied` says what settings are loaded, and what is missing if they are not.
-/

namespace Roster

open Roster.Text

/-! ### Values of a kind -/

namespace LeafKind

/-- A raw value is a value of a kind as it stands. -/
inductive Fits : (k : LeafKind) → RawValue → k.Value → Prop
  | text (s : String) (source : Option String) : Fits .text (.scalar (.text s) source) s
  | word (n : Nat) (source : Option String) : Fits .word (.scalar (.integer n) source) n
  | truth (b : Bool) (source : Option String) : Fits .truth (.scalar (.truth b) source) b
  | format {f : LogFormat} {name : String} (source : Option String) : lowered name = f.name →
      Fits .format (.scalar (.text name) source) f

variable {k : LeafKind} {v : RawValue} {b : k.Value}

theorem Fits.read (h : k.Fits v b) : k.read v = .ok b := by
  cases h with
  | text s source => rfl
  | word n source =>
    have hn : ¬ (n : Int) < 0 := Int.not_lt.2 (Int.natCast_nonneg n)
    simp only [LeafKind.read, RawValue.asWord, if_neg hn]
    rfl
  | truth b source => rfl
  | format source hname =>
    rename_i f name
    simp only [LeafKind.read, RawValue.asFormat, RawValue.formatOfName]
    rw [hname]
    cases f <;> rfl

/-- Whether a raw value is a value of a kind. -/
def fits : LeafKind → RawValue → Bool
  | .text, .scalar (.text _) _ => true
  | .word, .scalar (.integer i) _ => 0 ≤ i
  | .truth, .scalar (.truth _) _ => true
  | .format, .scalar (.text name) _ => lowered name = "pretty" || lowered name = "json"
  | _, _ => false

theorem fits_iff : k.fits v = true ↔ ∃ b, k.Fits v b := by
  constructor
  · intro h
    unfold fits at h
    split at h
    · exact ⟨_, .text _ _⟩
    · rename_i i source
      obtain ⟨n, rfl⟩ := Int.eq_ofNat_of_zero_le (of_decide_eq_true h)
      exact ⟨n, .word n source⟩
    · exact ⟨_, .truth _ _⟩
    · rcases Bool.or_eq_true_iff.1 h with hname | hname
      · exact ⟨.pretty, .format _ (of_decide_eq_true hname)⟩
      · exact ⟨.json, .format _ (of_decide_eq_true hname)⟩
    · cases h
  · rintro ⟨b, hb⟩
    cases hb with
    | text | truth => rfl
    | word n => exact decide_eq_true (Int.natCast_nonneg n)
    | format source hname =>
      rename_i f name
      simp only [fits, hname]
      cases f <;> rfl

theorem Fits.single (h : k.Fits v b) : ∃ a source, v = .scalar a source := by
  cases h <;> exact ⟨_, _, rfl⟩

end LeafKind

namespace Leaf

/-- Settings have what layers give to a setting, where each value is one of its kind. -/
structure Supplied (l : Leaf) (vs : List RawValue) (s : Settings) : Prop where
  /-- The last value. -/
  last : ∀ v, vs.getLast? = some v → l.kind.Fits v (l.get s)
  /-- The default, if there is no value. -/
  default : vs = [] → l.get s = l.get .default

variable {l : Leaf} {vs : List RawValue} {s : Settings}

theorem lastOf_eq_getLast? (h : ∀ v ∈ vs, ∃ a source, v = .scalar a source) :
    RawValue.lastOf vs = vs.getLast? := by
  have hall : vs.filter RawValue.hasContent = vs := by
    refine List.filter_eq_self.2 fun v hv => ?_
    obtain ⟨a, source, rfl⟩ := h v hv
    rfl
  rw [RawValue.lastOf, hall]

theorem said_of_supplied (hsingle : ∀ v ∈ vs, ∃ a source, v = .scalar a source) (h : l.Supplied vs s) :
    l.Said vs s := by
  refine ⟨fun v hv => ?_, fun hnone => ?_⟩
  · rw [lastOf_eq_getLast? hsingle] at hv
    exact (h.last v hv).read
  · rw [lastOf_eq_getLast? hsingle] at hnone
    exact h.default (List.getLast?_eq_none_iff.1 hnone)

end Leaf

/-- Settings that are put together from single ones. -/
def Settings.ofLeaves (f : (l : Leaf) → l.kind.Value) : Settings where
  app := ⟨f .appName, f .appVersion, f .appEnvironment⟩
  cache := ⟨f .cacheEnabled, f .maxCost, f .numCounters, f .bufferItems, f .ttlSecs, f .remoteTimeoutMs⟩
  redis := ⟨f .redisUrl, f .poolSize, f .redisEnabled⟩
  storage := ⟨f .inMemory⟩
  observability := ⟨f .logLevel, f .logFormat, f .withTarget⟩

theorem Leaf.get_ofLeaves (f : (l : Leaf) → l.kind.Value) (l : Leaf) : l.get (.ofLeaves f) = f l := by
  cases l <;> rfl

/-- There are settings with what layers give, if each value is one of its kind. -/
theorem Settings.exists_supplied {said : Leaf → List RawValue}
    (h : ∀ l : Leaf, ∀ v ∈ said l, ∃ b, l.kind.Fits v b) : ∃ s, ∀ l : Leaf, l.Supplied (said l) s := by
  have hone : ∀ l : Leaf, ∃ b : l.kind.Value,
      (∀ v, (said l).getLast? = some v → l.kind.Fits v b) ∧ (said l = [] → b = l.get .default) := by
    intro l
    cases hlast : (said l).getLast? with
    | none => exact ⟨l.get .default, fun v hv => (nomatch hv), fun _ => rfl⟩
    | some v =>
      obtain ⟨b, hb⟩ := h l v (List.mem_of_getLast? hlast)
      refine ⟨b, fun v' hv' => ?_, fun hnil => ?_⟩
      · cases hv'
        exact hb
      · rw [hnil] at hlast
        cases hlast
  choose f hf using hone
  refine ⟨.ofLeaves f, fun l => ⟨?_, ?_⟩⟩ <;> rw [Leaf.get_ofLeaves]
  · exact (hf l).1
  · exact (hf l).2

/-! ### Sections that layers name -/

/-- A section is there after layers have been laid if one of them names it. -/
theorem Part.has_assignAll (c : Part) (t : RawValue.Table) (source : List (String × RawValue)) :
    Keyed.has (RawValue.assignAll t source) c.name = true ↔
      Keyed.has t c.name = true ∨ ∃ e ∈ source, c.Names e := by
  induction source generalizing t with
  | nil => simp [RawValue.assignAll]
  | cons e source ih =>
    have hstep : Keyed.has (RawValue.assign t e.1 e.2) c.name = true ↔
        Keyed.has t c.name = true ∨ c.Names e := by
      by_cases hnames : c.Names e
      · simp [has_assign_of_names hnames, hnames]
      · rw [Keyed.has_eq_isSome, get?_assign_of_not_names hnames, ← Keyed.has_eq_isSome]
        simp [hnames]
    have hrest : RawValue.assignAll t (e :: source) =
        RawValue.assignAll (RawValue.assign t e.1 e.2) source := rfl
    rw [hrest, ih, hstep]
    simp only [List.mem_cons, or_and_right, exists_or, exists_eq_left, or_assoc]

/-- A section has a setting if layers give something to it. -/
theorem Leaf.has_iff_said {l : Leaf} {p : Place} {dir : String}
    (hnames : ∀ e ∈ p.sources dir, l.part.ByName e) :
    Keyed.has (l.part.entriesIn (RawValue.assignAll [] (p.sources dir))) l.key = true ↔
      p.said dir l ≠ [] := by
  have hshows := (l.shows_sources hnames).2
  simp only [Leaf.seen] at hshows
  rw [Keyed.has_eq_isSome]
  generalize Keyed.get? _ l.key = y at hshows
  cases hshows with
  | nothing hnil => simp [hnil]
  | blank source hne _ => simpa using hne
  | last hsome _ =>
    have hne : p.said dir l ≠ [] := by
      intro hnil
      rw [hnil] at hsome
      cases hsome
    simpa using hne

/-- The settings about the application, in the order in which they are looked for. -/
def Leaf.ofApp : List Leaf := [.appName, .appVersion, .appEnvironment]

theorem Leaf.mem_ofApp {l : Leaf} : l ∈ ofApp ↔ l.part = .app := by
  cases l <;> decide

/-- The error for a setting that has to be there. -/
def Leaf.missing (l : Leaf) : SettingError := .plain ("missing field " ++ Json.ticked l.key)

/-- The error for a section about the application is that for the first setting that it lacks. -/
theorem AppSettings.lacking?_section (entries : RawValue.Table) :
    Section.lacking? entries AppSettings.section.settings =
      (Leaf.ofApp.find? fun m => !Keyed.has entries m.key).map Leaf.missing := by
  simp only [Section.lacking?, AppSettings.section, Setting.of, Leaf.ofApp, Leaf.key, List.find?_cons,
    List.find?_nil, Bool.not_false, Bool.true_and]
  cases Keyed.has entries "name" with
  | false => rfl
  | true =>
    cases Keyed.has entries "version" with
    | false => rfl
    | true => cases Keyed.has entries "environment" <;> rfl

/-! ### What is loaded -/

theorem Part.exists_leaf (c : Part) : ∃ l : Leaf, l.part = c := by
  cases c with
  | app => exact ⟨.appName, rfl⟩
  | cache => exact ⟨.maxCost, rfl⟩
  | redis => exact ⟨.redisUrl, rfl⟩
  | storage => exact ⟨.inMemory, rfl⟩
  | observability => exact ⟨.logLevel, rfl⟩

theorem exists_eq_ok {ε α : Type} {x : Except ε α} (h : x.toOption.isSome = true) :
    ∃ a, x = .ok a := by
  cases x with
  | error e => cases h
  | ok a => exact ⟨a, rfl⟩

namespace Settings

theorem ofPlace_of_table {dir : String} {p : Place} {t : RawValue.Table}
    (hraw : rawSettings dir p.files p.environment = .ok t) :
    ofPlace dir p = match ofTable t with
      | .error e => .error (.configuration e.message)
      | .ok s => s.check.map fun _ => s := by
  simp only [ofPlace, hraw, bind, Except.bind]
  cases ofTable t with
  | error e => rfl
  | ok s => cases hcheck : s.check <;> simp only [hcheck] <;> rfl

/-- The section about the application is read first. -/
theorem ofTable_error {t entries : RawValue.Table} {source : Option String} {l : Leaf}
    (happ : Keyed.get? t Part.app.name = some (.table entries source))
    (he : AppSettings.section.read (.table entries source) = .error l.missing) :
    ofTable t = .error l.missing := by
  simp only [Part.name] at happ
  simp only [ofTable, sections, Section.read, Section.readTable, Setting.of, happ]
  simp only [Section.read] at he
  rw [he]
  rfl

/-- The first setting that the section about the application lacks is missing. -/
theorem ofTable_missing {t : RawValue.Table} {s : Settings} {before after : List Leaf} {l : Leaf}
    (htable : Part.app.IsTable t) (hthere : Keyed.has t Part.app.name = true)
    (hreads : ∀ m : Leaf, m.part = .app → m.ReadsFrom (Part.app.entriesIn t) s)
    (hsplit : Leaf.ofApp = before ++ l :: after)
    (hl : ¬ Keyed.has (Part.app.entriesIn t) l.key = true)
    (hbefore : ∀ m ∈ before, Keyed.has (Part.app.entriesIn t) m.key = true) :
    ofTable t = .error l.missing := by
  obtain ⟨source, hsection⟩ := htable.cases.resolve_left fun hnone => by
    rw [Keyed.has_eq_isSome, hnone.1] at hthere
    cases hthere
  have hfind : (Leaf.ofApp.find? fun m => !Keyed.has (Part.app.entriesIn t) m.key) = some l :=
    List.find?_eq_some_iff_append.2
      ⟨by simpa using hl, before, after, hsplit, fun m hm => by simp [hbefore m hm]⟩
  have hall := Part.app.readTable_iff.2 hreads
  simp only [Part.layout] at hall
  refine ofTable_error hsection ?_
  simp only [Section.read]
  rw [hall, AppSettings.lacking?_section, hfind]
  rfl

/-- Each section is read as what layers give to its settings. -/
theorem reads_of_supplied {dir : String} {p : Place} {s : Settings} (c : Part)
    (hnames : ∀ e ∈ p.sources dir, c.ByName e)
    (hsingle : ∀ l : Leaf, ∀ v ∈ p.said dir l, ∃ a source, v = .scalar a source)
    (hs : ∀ l : Leaf, l.Supplied (p.said dir l) s) :
    c.IsTable (RawValue.assignAll [] (p.sources dir)) ∧
      ∀ l : Leaf, l.part = c →
        l.ReadsFrom (c.entriesIn (RawValue.assignAll [] (p.sources dir))) s := by
  have hleaf : ∀ l : Leaf, l.part = c → c.IsTable (RawValue.assignAll [] (p.sources dir)) ∧
      l.ReadsFrom (c.entriesIn (RawValue.assignAll [] (p.sources dir))) s := by
    rintro l rfl
    obtain ⟨htable, hshows⟩ := l.shows_sources hnames
    have hsaid := Leaf.said_of_supplied (hsingle l) (hs l)
    exact ⟨htable, Leaf.readsFrom_of_said hshows (hsingle l) hsaid⟩
  obtain ⟨l, hl⟩ := c.exists_leaf
  exact ⟨(hleaf l hl).1, fun l hl => (hleaf l hl).2⟩

/-- If each value that layers give is one of the kind of its setting, the settings are those values, and
defaults for what is not given. They are loaded if they pass the check, with one exception: if a layer
names the section about the application, then its name, its version and its environment have to be given
by some layer, and the first of these that is not is reported as missing. -/
theorem loaded_of_supplied {dir : String} {p : Place}
    (hread : ∀ name ∈ p.prepared.environment.fileNames,
      ∃ es, fileEntries dir p.prepared.files name = .ok es)
    (hnames : ∀ c : Part, ∀ e ∈ p.prepared.sources dir, c.ByName e)
    (hfits : ∀ l : Leaf, ∀ v ∈ p.prepared.said dir l, ∃ b, l.kind.Fits v b) :
    ∃ s : Settings, (∀ l : Leaf, l.Supplied (p.prepared.said dir l) s) ∧
      (((∃ e ∈ p.prepared.sources dir, Part.app.Names e) →
          ∀ l ∈ Leaf.ofApp, p.prepared.said dir l ≠ []) →
        (load dir p).1 = s.check.map fun _ => s) ∧
      ((∃ e ∈ p.prepared.sources dir, Part.app.Names e) →
        ∀ before l after, Leaf.ofApp = before ++ l :: after → p.prepared.said dir l = [] →
          (∀ m ∈ before, p.prepared.said dir m ≠ []) →
          (load dir p).1 = .error (.configuration l.missing.message)) := by
  obtain ⟨s, hs⟩ := exists_supplied hfits
  have hsingle : ∀ l : Leaf, ∀ v ∈ p.prepared.said dir l, ∃ a source, v = .scalar a source :=
    fun l v hv => (hfits l v hv).elim fun _ hb => hb.single
  have hreads := fun c : Part => reads_of_supplied c (hnames c) hsingle hs
  have hnamed := Part.app.has_assignAll [] (p.prepared.sources dir)
  have hgiven : ∀ l ∈ Leaf.ofApp, (Keyed.has (Part.app.entriesIn
      (RawValue.assignAll [] (p.prepared.sources dir))) l.key = true ↔ p.prepared.said dir l ≠ []) := by
    intro l hl
    rw [← Leaf.mem_ofApp.1 hl]
    exact Leaf.has_iff_said (hnames l.part)
  -- nothing else about what is laid together matters from here
  have hload := ofPlace_of_table (rawSettings_eq_ok.2 ⟨hread, rfl⟩)
  generalize RawValue.assignAll [] (p.prepared.sources dir) = t at hreads hnamed hgiven hload
  have hnamed : Keyed.has t Part.app.name = true ↔ ∃ e ∈ p.prepared.sources dir, Part.app.Names e :=
    hnamed.trans (or_iff_right Bool.false_ne_true)
  refine ⟨s, hs, fun hcomplete => ?_, fun happ before l after hsplit hl hbefore => ?_⟩
  · have hofTable : ofTable t = .ok s := by
      refine ofTable_eq_ok.2 fun c => (Part.reads_iff (hreads c).1).2 ⟨?_, (hreads c).2⟩
      rintro hhas rfl l hl
      have hl := Leaf.mem_ofApp.2 hl
      exact (hgiven l hl).2 (hcomplete (hnamed.1 hhas) l hl)
    rw [hofTable] at hload
    exact hload
  · have hmem : ∀ m ∈ before ++ l :: after, m ∈ Leaf.ofApp := fun m hm => hsplit ▸ hm
    have hlacks : ¬ Keyed.has (Part.app.entriesIn t) l.key = true :=
      fun hhas => (hgiven l (hmem l (by simp))).1 hhas hl
    have hpassed : ∀ m ∈ before, Keyed.has (Part.app.entriesIn t) m.key = true :=
      fun m hm => (hgiven m (hmem m (List.mem_append_left _ hm))).2 (hbefore m hm)
    obtain ⟨htable, hreads⟩ := hreads .app
    rw [ofTable_missing htable (hnamed.2 happ) hreads hsplit hlacks hpassed] at hload
    exact hload

/-- A place for a trial: the section about the application is given in whole, by two files, and others in
part. -/
def trialParts : Place where
  files := [(["config".toList, "default.toml".toList],
      "[app]\nname = \"x\"\nversion = \"2\"\n[redis]\npool_size = 7"),
    (["config".toList, "local.toml".toList],
      "[app]\nenvironment = \"y\"\n[observability]\nlog_format = \"Json\"")]
  environment := []

theorem loaded_of_supplied_in_trial :
    (load "config" trialParts).1 = .ok { default with
      app := ⟨"x", "2", "y"⟩, redis.poolSize := 7, observability.format := .json } ∧
    ∃ s : Settings, (∀ l : Leaf, l.Supplied (trialParts.prepared.said "config" l) s) ∧
      (load "config" trialParts).1 = s.check.map fun _ => s := by
  have hread : ∀ name ∈ trialParts.prepared.environment.fileNames,
      (fileEntries "config" trialParts.prepared.files name).toOption.isSome = true := by decide +kernel
  have hnames : ∀ c : Part, ∀ e ∈ trialParts.prepared.sources "config", c.ByName e := by
    decide +kernel
  have hfits : ∀ l : Leaf, ∀ v ∈ trialParts.prepared.said "config" l, l.kind.fits v = true := by
    decide +kernel
  have hwhole : ∀ l ∈ Leaf.ofApp, trialParts.prepared.said "config" l ≠ [] := by decide +kernel
  obtain ⟨s, hs, hload, -⟩ :=
    loaded_of_supplied (fun name hname => exists_eq_ok (hread name hname)) hnames
      fun l v hv => LeafKind.fits_iff.1 (hfits l v hv)
  refine ⟨by decide +kernel, s, hs, hload fun _ => hwhole⟩

/-- The section about the application given in part: what is not given is missing. -/
theorem application_in_part_refused :
    (load "config" ⟨[(["config".toList, "default.toml".toList], "[app]\nname = \"x\"")], []⟩).1 =
      .error (.configuration "missing field `version`") := by
  decide +kernel

end Settings

end Roster
