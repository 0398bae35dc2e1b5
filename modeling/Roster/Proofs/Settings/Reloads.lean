import Roster.Proofs.Settings.Copies

/-!
# Loading settings again

A loader whose files change in between loads its settings from the files as they are. Variables are
another matter: what `.env` sets stays set, and counts as set already when `.env` is read again.

* `Environment.load_again` says that a file of variables has no effect once it has been read.
* `Loaders.reload_gives` says what a loader gives after it has loaded its settings again: what a new loader
  would load in an environment in which every text that `.env` has had at a load is read, one after
  another.
-/

namespace Roster

open Program

/-! ### Files of variables read again -/

namespace Dotenv

namespace Draft

/-- A draft but for the text of the value. -/
def bare (d : Draft) : Draft := { d with text := [] }

variable {lookUp lookUp' : String → String} {d d' : Draft}

/-- Whether a character can be read does not depend on the values of variables. -/
theorem bare_step (h : d.bare = d'.bare) (c : Char) :
    (d.step lookUp c).map bare = (d'.step lookUp' c).map bare := by
  obtain ⟨text, name, naming, single, double, escaped, ended⟩ := d
  obtain ⟨text', name', naming', single', double', escaped', ended'⟩ := d'
  simp only [bare, Draft.mk.injEq, true_and] at h
  obtain ⟨rfl, rfl, rfl, rfl, rfl, rfl⟩ := h
  simp only [step, nameStep, push, fill, apply_ite (Option.map bare), apply_ite bare, Option.map_some,
    Option.map_none]
  rfl

theorem isSome_finish (h : d.bare = d'.bare) :
    (d.finish lookUp).isSome = (d'.finish lookUp').isSome := by
  simp only [bare, Draft.mk.injEq, true_and] at h
  obtain ⟨hname, hnaming, hsingle, hdouble, hescaped, hended⟩ := h
  simp only [finish, hnaming, hsingle, hdouble]
  split <;> rfl

theorem isSome_run (h : d.bare = d'.bare) (cs : List Char) :
    (d.run lookUp cs).isSome = (d'.run lookUp' cs).isSome := by
  induction cs generalizing d d' with
  | nil => exact isSome_finish h
  | cons c cs ih =>
    have hended : d.bare.ended = d'.bare.ended := congrArg Draft.ended h
    have hstep : (d.step lookUp c).map bare = (d'.step lookUp' c).map bare := bare_step h c
    simp only [bare] at hended
    simp only [run, hended]
    split
    · exact isSome_finish h
    · cases hd : d.step lookUp c with
      | none =>
        rw [hd] at hstep
        rw [Option.map_eq_none_iff.1 hstep.symm]
      | some e =>
        rw [hd] at hstep
        obtain ⟨e', he', hbare⟩ := Option.map_eq_some_iff.1 hstep.symm
        rw [he']
        exact ih hbare.symm

end Draft

theorem isSome_lineValue (lookUp lookUp' : String → String) (cs : List Char) :
    (lineValue lookUp cs).isSome = (lineValue lookUp' cs).isSome := by
  simp only [lineValue]
  split
  · rfl
  · exact Draft.isSome_run rfl cs

/-- The variable that a line names does not depend on the values of variables. -/
theorem assignment_names (lookUp lookUp' : String → String) (line : List Char) :
    (assignment lookUp line).map (·.map (·.1)) = (assignment lookUp' line).map (·.map (·.1)) := by
  simp only [assignment]
  split
  · rfl
  · cases splitEquals (Text.trim line) with
    | none => rfl
    | some e =>
      have hvalue := isSome_lineValue lookUp lookUp' e.2
      simp only [Option.bind_eq_bind, Option.bind_some]
      cases hv : lineValue lookUp e.2 with
      | none =>
        rw [hv] at hvalue
        rw [Option.isSome_eq_false_iff.1 hvalue.symm |> Option.isNone_iff_eq_none.1]
      | some value =>
        rw [hv] at hvalue
        obtain ⟨value', hv'⟩ := Option.isSome_iff_exists.1 hvalue.symm
        rw [hv']
        rfl

/-- Lines have no effect where all variables are set that they have set elsewhere. -/
theorem setLines_again {env env' : Environment} (lines : List (Option (List Char)))
    (given given' : Environment)
    (h : ∀ name, ((setLines given lines env).get? name).isSome = true → (env'.get? name).isSome = true) :
    setLines given' lines env' = env' := by
  induction lines generalizing given given' env with
  | nil => rfl
  | cons line rest ih =>
    cases line with
    | none => rfl
    | some line =>
      have hnames := assignment_names (lookUp env given) (lookUp env' given') line
      simp only [setLines] at h ⊢
      cases hline : assignment (lookUp env given) line with
      | none =>
        rw [hline] at hnames
        rw [Option.map_eq_none_iff.1 hnames.symm]
      | some e =>
        rw [hline] at hnames h
        obtain ⟨e', hline', hname⟩ := Option.map_eq_some_iff.1 hnames.symm
        rw [hline']
        cases e with
        | none =>
          obtain rfl := Option.map_eq_none_iff.1 hname
          exact ih _ _ h
        | some x =>
          obtain ⟨⟨name', value'⟩, rfl, rfl⟩ := Option.map_eq_some_iff.1 hname
          -- the variable was set when the line was read first, and lines after it have not changed that
          have hset : (env'.get? x.1).isSome = true := by
            refine h x.1 ?_
            obtain ⟨value, hvalue⟩ : ∃ value, (if (env.get? x.1).isSome then env
                else env.set x.1 x.2).get? x.1 = some value := by
              split
              · rename_i hold
                exact Option.isSome_iff_exists.1 hold
              · exact ⟨x.2, by rw [Environment.get?_set, if_pos rfl]⟩
            exact Option.isSome_iff_exists.2 ⟨value, get?_setLines _ _ _ hvalue⟩
          dsimp only
          rw [if_pos hset]
          exact ih _ _ h

end Dotenv

namespace Environment

/-- A file of variables has no effect once it has been read. -/
theorem load_again (env : Environment) (text : String) : (env.load text).load text = env.load text := by
  conv_lhs => rw [load]
  exact Dotenv.setLines_again _ [] [] fun _ h => h

theorem load_of_same {text : String} {texts : List String} (h : ∀ t ∈ texts, t = text)
    (env : Environment) : (texts.foldl load env).load text = env.load text := by
  induction texts generalizing env with
  | nil => rfl
  | cons t texts ih =>
    obtain rfl := h t List.mem_cons_self
    rw [List.foldl_cons, ih fun t' ht' => h t' (List.mem_cons_of_mem _ ht'), load_again]

theorem get?_load {env : Environment} {name value : String} (h : env.get? name = some value)
    (text : String) : (env.load text).get? name = some value := Dotenv.get?_setLines _ _ _ h

theorem get?_foldl_load {env : Environment} {name value : String} (h : env.get? name = some value)
    (texts : List String) : (texts.foldl load env).get? name = some value := by
  induction texts generalizing env with
  | nil => exact h
  | cons text texts ih => exact ih (get?_load h text)

end Environment

/-! ### One loader -/

namespace LoaderAct

/-- A change to a file, or something that is asked of the first loader. -/
def OfFirst : LoaderAct → Prop
  | .write .. | .remove _ | .current 0 | .reload 0 => True
  | _ => False

/-- What an act makes of the files. -/
def filesAfter (files : Files) : LoaderAct → Files
  | .write path text => files.write path text
  | .remove path => files.remove path
  | _ => files

/-- The text that an act reads as a file of variables. -/
def textRead (files : Files) : LoaderAct → List String
  | .load _ | .reload _ => (files.read? ".env").toList
  | _ => []

/-- The texts that acts read as files of variables, one after another. -/
def textsRead (files : Files) : List LoaderAct → List String
  | [] => []
  | x :: acts => x.textRead files ++ textsRead (x.filesAfter files) acts

end LoaderAct

theorem Place.prepared_eq (p : Place) :
    p.prepared = ⟨p.files, (p.files.read? ".env").toList.foldl Environment.load p.environment⟩ := by
  simp only [prepared]
  cases p.files.read? ".env" <;> rfl

/-- A file of variables has no effect on what is loaded if it was read before and has not changed. -/
theorem Place.prepared_of_same {files : Files} {texts : List String}
    (h : ∀ text ∈ texts, files.read? ".env" = some text) (env : Environment) :
    (⟨files, texts.foldl Environment.load env⟩ : Place).prepared = (⟨files, env⟩ : Place).prepared := by
  rw [prepared_eq, prepared_eq]
  dsimp only
  cases hfile : files.read? ".env" with
  | none =>
    obtain rfl : texts = [] := List.eq_nil_iff_forall_not_mem.2 fun text ht => by
      have hread := h text ht
      rw [hfile] at hread
      cases hread
    rfl
  | some now =>
    have hsame : ∀ text ∈ texts, text = now := fun text ht =>
      Option.some.inj ((h text ht).symm.trans hfile)
    simp only [Option.toList_some, List.foldl_cons, List.foldl_nil, Environment.load_of_same hsame]

namespace Loaders

open LoaderAct

/-- One loader, which no other shares its settings with. -/
def one (p : Place) (dir : String) (c : Settings) : Loaders := ⟨p, [⟨dir, c⟩], [0]⟩

variable {p : Place} {dir : String} {c : Settings}

theorem reload_one (p : Place) (dir : String) (c : Settings) :
    (one p dir c).reload 0 = match (Settings.load dir p).1 with
      | .ok c' => (some (.ok ()), one p.prepared dir c')
      | .error e => (some (.error e), one p.prepared dir c) := by
  have hpart : (one p dir c).parts[0]? = some 0 := rfl
  have hloaded : (one p dir c).loaded[0]? = some ⟨dir, c⟩ := rfl
  rw [reload_eq hpart hloaded]
  rfl

/-- What an act makes of a place with one loader. -/
theorem handle_one (p : Place) (dir : String) (c : Settings) {x : LoaderAct} (hx : x.OfFirst) :
    ∃ c', (handle x (one p dir c)).2 = one ⟨x.filesAfter p.files,
      (x.textRead p.files).foldl Environment.load p.environment⟩ dir c' := by
  match x, hx with
  | .write path text, _ => exact ⟨c, rfl⟩
  | .remove path, _ => exact ⟨c, rfl⟩
  | .current 0, _ => exact ⟨c, rfl⟩
  | .reload 0, _ =>
    simp only [handle, reload_one, Place.prepared_eq]
    cases (Settings.load dir p).1 with
    | ok c' => exact ⟨c', rfl⟩
    | error e => exact ⟨c, rfl⟩

/-- What acts make of a place with one loader: it loads from the files as they are, and each text that was
read has set its variables. -/
theorem after_one (p : Place) (dir : String) (c : Settings) {acts : List LoaderAct}
    (hacts : ∀ x ∈ acts, x.OfFirst) :
    ∃ c', after handle acts (one p dir c) = one ⟨acts.foldl filesAfter p.files,
      (textsRead p.files acts).foldl Environment.load p.environment⟩ dir c' := by
  induction acts generalizing p c with
  | nil => exact ⟨c, rfl⟩
  | cons x acts ih =>
    obtain ⟨c', hstep⟩ := handle_one p dir c (hacts x List.mem_cons_self)
    have hrest := fun y hy => hacts y (List.mem_cons_of_mem x hy)
    obtain ⟨c'', hafter⟩ := ih ⟨x.filesAfter p.files,
      (x.textRead p.files).foldl Environment.load p.environment⟩ c' hrest
    refine ⟨c'', ?_⟩
    rw [textsRead, List.foldl_append]
    exact (congrArg (after handle acts) hstep).trans hafter

theorem load_start {who : Nat} (h : (handle (.load dir) (start p)).1 = .ok who) :
    ∃ c, (handle (.load dir) (start p)).2 = one p.prepared dir c := by
  simp only [handle, load] at h ⊢
  rw [Loader.load_eq] at h ⊢
  cases hload : (Settings.load dir (start p).place).1 with
  | error e =>
    rw [hload] at h
    cases h
  | ok c => exact ⟨c, rfl⟩

/-- A loader that has loaded its settings again gives what a new loader loads from the files as they are,
in an environment in which all the texts that `.env` had at a load have been read, one after another: a
variable that the original environment has, or that one of these texts has set, keeps its value. If the
texts were all the same, and the same as now, then that is what a new loader loads in the original
environment. -/
theorem reload_gives {acts : List LoaderAct} {who : Nat}
    (hmade : (handle (.load dir) (start p)).1 = .ok who) (hacts : ∀ x ∈ acts, x.OfFirst)
    (hreload : (handle (.reload 0) (afterActs p (.load dir :: acts))).1 = some (.ok ())) :
    ∃ c, (handle (.current 0) (afterActs p (.load dir :: acts ++ [.reload 0]))).1 = some c ∧
      (Loader.load dir ⟨acts.foldl filesAfter p.files,
        (textsRead p.files (.load dir :: acts)).foldl Environment.load p.environment⟩).1 =
          .ok ⟨dir, c⟩ ∧
      (∀ earlier later, textsRead p.files (.load dir :: acts) = earlier ++ later →
        ∀ name value, (earlier.foldl Environment.load p.environment).get? name = some value →
          ((textsRead p.files (.load dir :: acts)).foldl Environment.load p.environment).get? name =
            some value) ∧
      ((∀ text ∈ textsRead p.files (.load dir :: acts),
          (acts.foldl filesAfter p.files).read? ".env" = some text) →
        (Loader.load dir ⟨acts.foldl filesAfter p.files, p.environment⟩).1 = .ok ⟨dir, c⟩) := by
  obtain ⟨c₀, hfirst⟩ := load_start hmade
  obtain ⟨c₁, hafter⟩ := after_one p.prepared dir c₀ hacts
  have hstate : afterActs p (.load dir :: acts) = one ⟨acts.foldl filesAfter p.files,
      (textsRead p.files (.load dir :: acts)).foldl Environment.load p.environment⟩ dir c₁ := by
    rw [textsRead, List.foldl_append]
    rw [Place.prepared_eq] at hafter hfirst
    exact (congrArg (after handle acts) hfirst).trans hafter
  rw [afterActs_concat, hstate]
  rw [hstate] at hreload
  simp only [handle, reload_one] at hreload ⊢
  cases hload : (Settings.load dir ⟨acts.foldl filesAfter p.files,
      (textsRead p.files (.load dir :: acts)).foldl Environment.load p.environment⟩).1 with
  | error e =>
    rw [hload] at hreload
    cases hreload
  | ok c =>
    refine ⟨c, rfl, ?_, fun earlier later htexts name value hset => ?_, fun hsame => ?_⟩
    · rw [Loader.load_eq, hload]
      rfl
    · rw [htexts, List.foldl_append]
      exact Environment.get?_foldl_load hset later
    · have hprepared := Place.prepared_of_same hsame p.environment
      simp only [Settings.load] at hload
      rw [hprepared] at hload
      rw [Loader.load_eq]
      simp only [Settings.load, hload]
      rfl

/-- Acts for a trial: a setting changes in one file, and comes to be in another. -/
def trialEdits : List LoaderAct :=
  [.write "config/default.toml" "[cache]\nmax_cost = 21", .reload 0,
    .write "config/local.toml" "[cache]\nttl_secs = 22", .current 0]

/-- Files for a trial: one sets a variable. -/
def trialVariables : Place := ⟨[([".env".toList], "STRATA__CACHE__BUFFER_ITEMS=23")], []⟩

theorem reload_gives_in_trial :
    ∃ c, (handle (.current 0) (afterActs trialVariables
        (.load "config" :: trialEdits ++ [.reload 0]))).1 = some c ∧
      (Loader.load "config" ⟨trialEdits.foldl filesAfter trialVariables.files, []⟩).1 =
        .ok ⟨"config", c⟩ := by
  have hmade : (handle (.load "config") (start trialVariables)).1 = .ok 0 := by decide +kernel
  have hacts : ∀ x ∈ trialEdits, x.OfFirst := by simp [trialEdits, OfFirst]
  have hreload : (handle (.reload 0) (afterActs trialVariables (.load "config" :: trialEdits))).1 =
      some (.ok ()) := by decide +kernel
  have htexts : ∀ text ∈ textsRead trialVariables.files (.load "config" :: trialEdits),
      (trialEdits.foldl filesAfter trialVariables.files).read? ".env" = some text := by decide +kernel
  obtain ⟨c, hc, -, -, hsame⟩ := reload_gives hmade hacts hreload
  exact ⟨c, hc, hsame htexts⟩

/-- A variable that `.env` has set once keeps its value though the file changes: the loader gives another
setting than a new one. -/
theorem changed_variable_not_seen :
    (handle (.reload 0) (afterActs ⟨[([".env".toList], "STRATA__CACHE__TTL_SECS=24")], []⟩
        [.load "config", .write ".env" "STRATA__CACHE__TTL_SECS=25"])).1 = some (.ok ()) ∧
      (handle (.current 0) (afterActs ⟨[([".env".toList], "STRATA__CACHE__TTL_SECS=24")], []⟩
        [.load "config", .write ".env" "STRATA__CACHE__TTL_SECS=25", .reload 0])).1 =
          some { Settings.default with cache.ttlSecs := 24 } ∧
      (Settings.load "config" ⟨[([".env".toList], "STRATA__CACHE__TTL_SECS=25")], []⟩).1 =
        .ok { Settings.default with cache.ttlSecs := 25 } := by
  refine ⟨?_, ?_, ?_⟩ <;> decide +kernel

end Loaders

end Roster
