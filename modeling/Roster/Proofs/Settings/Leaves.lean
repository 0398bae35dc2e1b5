import Roster.Settings.Section

/-!
# Single settings

Every single setting has a name in a section, a kind, and a place in the settings. Reading all settings
comes down to reading each of them.

* `Part` are the sections, `Leaf` the single settings in them.
* `Settings.ofTable_eq_ok` says what settings are read from a table, section by section.
* `Part.read_table` says what is read from a section that is a table, setting by setting: one that the
  table has gives its value, and any other has its default. Only the section about the application has to
  be whole.
-/

namespace Roster

/-! ### Sections and single settings -/

/-- The sections of the settings. -/
inductive Part where
  | app
  | cache
  | redis
  | storage
  | observability
  deriving DecidableEq

namespace Part

/-- What a section holds. -/
abbrev Content : Part → Type
  | app => AppSettings
  | cache => CacheSettings
  | redis => RedisSettings
  | storage => StorageSettings
  | observability => LogSettings

/-- All sections. -/
def all : List Part := [app, cache, redis, storage, observability]

instance {P : Part → Prop} [DecidablePred P] : Decidable (∀ c, P c) :=
  decidable_of_iff (∀ c ∈ all, P c) ⟨fun h c => h c (by cases c <;> decide), fun h c _ => h c⟩

/-- The name of a section. -/
def name : Part → String
  | app => "app"
  | cache => "cache"
  | redis => "redis"
  | storage => "storage"
  | observability => "observability"

/-- How a section is read. -/
def layout : (c : Part) → Section c.Content
  | app => AppSettings.section
  | cache => CacheSettings.section
  | redis => RedisSettings.section
  | storage => StorageSettings.section
  | observability => LogSettings.section

/-- A section of settings. -/
def get : (c : Part) → Settings → c.Content
  | app, s => s.app
  | cache, s => s.cache
  | redis, s => s.redis
  | storage, s => s.storage
  | observability, s => s.observability

end Part

/-- The kinds of single settings. -/
inductive LeafKind where
  | text
  | word
  | truth
  | format

namespace LeafKind

/-- The values of a kind. -/
abbrev Value : LeafKind → Type
  | text => String
  | word => Nat
  | truth => Bool
  | format => LogFormat

/-- How raw settings are converted to a kind. -/
def read : (k : LeafKind) → RawValue → Except SettingError k.Value
  | text => RawValue.asText
  | word => RawValue.asWord
  | truth => RawValue.asTruth
  | format => RawValue.asFormat

end LeafKind

/-- The single settings. -/
inductive Leaf where
  | appName
  | appVersion
  | appEnvironment
  | cacheEnabled
  | maxCost
  | numCounters
  | bufferItems
  | ttlSecs
  | remoteTimeoutMs
  | redisUrl
  | poolSize
  | redisEnabled
  | inMemory
  | logLevel
  | logFormat
  | withTarget
  deriving DecidableEq

namespace Leaf

/-- All single settings. -/
def all : List Leaf := [appName, appVersion, appEnvironment, cacheEnabled, maxCost, numCounters, bufferItems,
  ttlSecs, remoteTimeoutMs, redisUrl, poolSize, redisEnabled, inMemory, logLevel, logFormat, withTarget]

instance {P : Leaf → Prop} [DecidablePred P] : Decidable (∀ l, P l) :=
  decidable_of_iff (∀ l ∈ all, P l) ⟨fun h l => h l (by cases l <;> decide), fun h l _ => h l⟩

/-- The section that a setting is in. -/
def part : Leaf → Part
  | appName | appVersion | appEnvironment => .app
  | cacheEnabled | maxCost | numCounters | bufferItems | ttlSecs | remoteTimeoutMs => .cache
  | redisUrl | poolSize | redisEnabled => .redis
  | inMemory => .storage
  | logLevel | logFormat | withTarget => .observability

/-- The name of a setting in its section. -/
def key : Leaf → String
  | appName => "name"
  | appVersion => "version"
  | appEnvironment => "environment"
  | cacheEnabled => "enabled"
  | maxCost => "max_cost"
  | numCounters => "num_counters"
  | bufferItems => "buffer_items"
  | ttlSecs => "ttl_secs"
  | remoteTimeoutMs => "remote_timeout_ms"
  | redisUrl => "url"
  | poolSize => "pool_size"
  | redisEnabled => "enabled"
  | inMemory => "in_memory"
  | logLevel => "log_level"
  | logFormat => "log_format"
  | withTarget => "with_target"

/-- The kind of a setting. -/
abbrev kind : Leaf → LeafKind
  | appName | appVersion | appEnvironment | redisUrl | logLevel => .text
  | maxCost | numCounters | bufferItems | ttlSecs | remoteTimeoutMs | poolSize => .word
  | cacheEnabled | redisEnabled | inMemory | withTarget => .truth
  | logFormat => .format

/-- The value of a setting. -/
def get : (l : Leaf) → Settings → l.kind.Value
  | appName, s => s.app.name
  | appVersion, s => s.app.version
  | appEnvironment, s => s.app.environment
  | cacheEnabled, s => s.cache.enabled
  | maxCost, s => s.cache.maxCost
  | numCounters, s => s.cache.numCounters
  | bufferItems, s => s.cache.bufferItems
  | ttlSecs, s => s.cache.ttlSecs
  | remoteTimeoutMs, s => s.cache.remoteTimeoutMs
  | redisUrl, s => s.redis.url
  | poolSize, s => s.redis.poolSize
  | redisEnabled, s => s.redis.enabled
  | inMemory, s => s.storage.inMemory
  | logLevel, s => s.observability.level
  | logFormat, s => s.observability.format
  | withTarget, s => s.observability.withTarget

/-- Settings with another value of a setting. -/
def put : (l : Leaf) → Settings → l.kind.Value → Settings
  | appName, s, v => { s with app.name := v }
  | appVersion, s, v => { s with app.version := v }
  | appEnvironment, s, v => { s with app.environment := v }
  | cacheEnabled, s, v => { s with cache.enabled := v }
  | maxCost, s, v => { s with cache.maxCost := v }
  | numCounters, s, v => { s with cache.numCounters := v }
  | bufferItems, s, v => { s with cache.bufferItems := v }
  | ttlSecs, s, v => { s with cache.ttlSecs := v }
  | remoteTimeoutMs, s, v => { s with cache.remoteTimeoutMs := v }
  | redisUrl, s, v => { s with redis.url := v }
  | poolSize, s, v => { s with redis.poolSize := v }
  | redisEnabled, s, v => { s with redis.enabled := v }
  | inMemory, s, v => { s with storage.inMemory := v }
  | logLevel, s, v => { s with observability.level := v }
  | logFormat, s, v => { s with observability.format := v }
  | withTarget, s, v => { s with observability.withTarget := v }

end Leaf

/-! ### Reading a section -/

/-- What a table has under a name reads as a value; the default stands for what it has not. -/
def ReadsAs {β : Type} (entries : RawValue.Table) (name : String) (read : RawValue → Except SettingError β)
    (start b : β) : Prop :=
  match Keyed.get? entries name with
  | some v => read v = .ok b
  | none => b = start

namespace Section

variable {σ β : Type} {entries : RawValue.Table}

theorem readTable_nil {s s' : σ} : readTable entries [] s = .ok s' ↔ s = s' := by
  simp only [readTable, Except.ok.injEq]

theorem readTable_cons {name : String} {read : RawValue → Except SettingError β} {set : σ → β → σ}
    {optional : Bool} {rest : List (Setting σ)} {s s' : σ} (get : σ → β)
    (hset : ∀ s, set s (get s) = s) :
    readTable entries (.of name read set optional :: rest) s = .ok s' ↔
      ∃ b, ReadsAs entries name read (get s) b ∧ readTable entries rest (set s b) = .ok s' := by
  simp only [readTable, Setting.of, ReadsAs]
  cases hget : Keyed.get? entries name with
  | none => simp [hset]
  | some v =>
    dsimp only
    cases read v with
    | error e => simp [Except.map]
    | ok b => simp [Except.map]

theorem read_table_eq_ok {c : Section σ} {source : Option String} {s : σ} :
    c.read (.table entries source) = .ok s ↔
      readTable entries c.settings c.start = .ok s ∧ lacking? entries c.settings = none := by
  simp only [read]
  cases readTable entries c.settings c.start with
  | error e => simp
  | ok s' => cases lacking? entries c.settings <;> simp

end Section

/-- A table has all that the section cannot do without. -/
def Part.Complete (c : Part) (entries : RawValue.Table) : Prop :=
  c = .app → ∀ l : Leaf, l.part = .app → Keyed.has entries l.key = true

/-- What a table has under the name of a setting reads as the value of the setting; the default stands
for what it has not. -/
def Leaf.ReadsFrom (l : Leaf) (entries : RawValue.Table) (s : Settings) : Prop :=
  ReadsAs entries l.key l.kind.read (l.get .default) (l.get s)

namespace Part

variable {entries : RawValue.Table} {s : Settings}

/-- The settings of each section, one by one. -/
theorem forall_leaf {P : Leaf → Prop} (c : Part) :
    (∀ l : Leaf, l.part = c → P l) ↔ match c with
      | app => P .appName ∧ P .appVersion ∧ P .appEnvironment
      | cache => P .cacheEnabled ∧ P .maxCost ∧ P .numCounters ∧ P .bufferItems ∧ P .ttlSecs ∧
          P .remoteTimeoutMs
      | redis => P .redisUrl ∧ P .poolSize ∧ P .redisEnabled
      | storage => P .inMemory
      | observability => P .logLevel ∧ P .logFormat ∧ P .withTarget := by
  constructor
  · intro h
    cases c with
    | app => exact ⟨h .appName rfl, h .appVersion rfl, h .appEnvironment rfl⟩
    | cache =>
      exact ⟨h .cacheEnabled rfl, h .maxCost rfl, h .numCounters rfl, h .bufferItems rfl,
        h .ttlSecs rfl, h .remoteTimeoutMs rfl⟩
    | redis => exact ⟨h .redisUrl rfl, h .poolSize rfl, h .redisEnabled rfl⟩
    | storage => exact h .inMemory rfl
    | observability => exact ⟨h .logLevel rfl, h .logFormat rfl, h .withTarget rfl⟩
  · intro h l hl
    subst hl
    cases l <;> simp_all [Leaf.part]

/-- A section is the same if its settings are. -/
theorem get_eq_iff (c : Part) {s t : Settings} :
    c.get s = c.get t ↔ ∀ l : Leaf, l.part = c → l.get s = l.get t := by
  rw [forall_leaf c]
  obtain ⟨⟨_, _, _⟩, ⟨_, _, _, _, _, _⟩, ⟨_, _, _⟩, ⟨_⟩, ⟨_, _, _⟩⟩ := s
  obtain ⟨⟨_, _, _⟩, ⟨_, _, _, _, _, _⟩, ⟨_, _, _⟩, ⟨_⟩, ⟨_, _, _⟩⟩ := t
  cases c <;> simp [get, Leaf.get]

theorem lacking?_eq_none (c : Part) :
    Section.lacking? entries c.layout.settings = none ↔ c.Complete entries := by
  cases c with
  | app =>
    simp only [Complete, true_imp_iff]
    rw [forall_leaf .app]
    simp [Section.lacking?, layout, AppSettings.section, Setting.of, Leaf.key]
  | cache | redis | storage | observability =>
    exact iff_of_true rfl fun h => absurd h (by decide)

/-- The settings of a section are read one by one. -/
theorem readTable_iff (c : Part) :
    Section.readTable entries c.layout.settings c.layout.start = .ok (c.get s) ↔
      ∀ l : Leaf, l.part = c → l.ReadsFrom entries s := by
  rw [forall_leaf c]
  cases c with
  | app =>
    simp (disch := exact fun _ => rfl) only [layout, AppSettings.section, Section.readTable_cons AppSettings.name,
      Section.readTable_cons AppSettings.version,
      Section.readTable_cons AppSettings.environment,
      Section.readTable_nil]
    constructor
    · rintro ⟨_, hname, _, hversion, _, henvironment, hs⟩
      obtain ⟨_, _, _, _, _⟩ := s
      cases hs
      exact ⟨hname, hversion, henvironment⟩
    · rintro ⟨hname, hversion, henvironment⟩
      exact ⟨_, hname, _, hversion, _, henvironment, rfl⟩
  | cache =>
    simp (disch := exact fun _ => rfl) only [layout, CacheSettings.section, Section.readTable_cons CacheSettings.enabled,
      Section.readTable_cons CacheSettings.maxCost,
      Section.readTable_cons CacheSettings.numCounters,
      Section.readTable_cons CacheSettings.bufferItems,
      Section.readTable_cons CacheSettings.ttlSecs,
      Section.readTable_cons CacheSettings.remoteTimeoutMs,
      Section.readTable_nil]
    constructor
    · rintro ⟨_, henabled, _, hmaxCost, _, hnumCounters, _, hbufferItems, _, httlSecs, _, hremoteTimeoutMs, hs⟩
      obtain ⟨_, _, _, _, _⟩ := s
      cases hs
      exact ⟨henabled, hmaxCost, hnumCounters, hbufferItems, httlSecs, hremoteTimeoutMs⟩
    · rintro ⟨henabled, hmaxCost, hnumCounters, hbufferItems, httlSecs, hremoteTimeoutMs⟩
      exact ⟨_, henabled, _, hmaxCost, _, hnumCounters, _, hbufferItems, _, httlSecs, _, hremoteTimeoutMs, rfl⟩
  | redis =>
    simp (disch := exact fun _ => rfl) only [layout, RedisSettings.section, Section.readTable_cons RedisSettings.url,
      Section.readTable_cons RedisSettings.poolSize,
      Section.readTable_cons RedisSettings.enabled,
      Section.readTable_nil]
    constructor
    · rintro ⟨_, hurl, _, hpoolSize, _, henabled, hs⟩
      obtain ⟨_, _, _, _, _⟩ := s
      cases hs
      exact ⟨hurl, hpoolSize, henabled⟩
    · rintro ⟨hurl, hpoolSize, henabled⟩
      exact ⟨_, hurl, _, hpoolSize, _, henabled, rfl⟩
  | storage =>
    simp (disch := exact fun _ => rfl) only [layout, StorageSettings.section, Section.readTable_cons StorageSettings.inMemory,
      Section.readTable_nil]
    constructor
    · rintro ⟨_, hinMemory, hs⟩
      obtain ⟨_, _, _, _, _⟩ := s
      cases hs
      exact hinMemory
    · intro hinMemory
      exact ⟨_, hinMemory, rfl⟩
  | observability =>
    simp (disch := exact fun _ => rfl) only [layout, LogSettings.section, Section.readTable_cons LogSettings.level,
      Section.readTable_cons LogSettings.format,
      Section.readTable_cons LogSettings.withTarget,
      Section.readTable_nil]
    constructor
    · rintro ⟨_, hlevel, _, hformat, _, hwithTarget, hs⟩
      obtain ⟨_, _, _, _, _⟩ := s
      cases hs
      exact ⟨hlevel, hformat, hwithTarget⟩
    · rintro ⟨hlevel, hformat, hwithTarget⟩
      exact ⟨_, hlevel, _, hformat, _, hwithTarget, rfl⟩

/-- What is read from a section that is a table. -/
theorem read_table (c : Part) {source : Option String} :
    c.layout.read (.table entries source) = .ok (c.get s) ↔
      c.Complete entries ∧ ∀ l : Leaf, l.part = c → l.ReadsFrom entries s := by
  rw [Section.read_table_eq_ok, lacking?_eq_none, readTable_iff, and_comm]

end Part

namespace Settings

/-- What a table has under the name of a section reads as the section; the default stands for a section
that the table has not. -/
theorem ofTable_eq_ok {t : RawValue.Table} {s : Settings} :
    ofTable t = .ok s ↔ ∀ c : Part, ReadsAs t c.name c.layout.read (c.get .default) (c.get s) := by
  simp only [ofTable]
  rw [Section.read_table_eq_ok]
  simp (disch := exact fun _ => rfl) only [sections, Section.readTable_cons Settings.app,
    Section.readTable_cons Settings.cache, Section.readTable_cons Settings.redis,
    Section.readTable_cons Settings.storage, Section.readTable_cons Settings.observability,
    Section.readTable_nil]
  constructor
  · rintro ⟨⟨_, happ, _, hcache, _, hredis, _, hstorage, _, hobservability, rfl⟩, -⟩ c
    cases c with
    | app => exact happ
    | cache => exact hcache
    | redis => exact hredis
    | storage => exact hstorage
    | observability => exact hobservability
  · intro h
    exact ⟨⟨_, h .app, _, h .cache, _, h .redis, _, h .storage, _, h .observability, rfl⟩, rfl⟩

end Settings

end Roster
