import Roster.Proofs.Steps
import Roster.Settings.Copies
import Mathlib.Data.List.Induction
import Mathlib.Logic.Relation

/-!
# What loaders give

Loaders and their copies load from a place whose files and variables change in between. A loader and its
copies are *kin*: all of them give the settings that were loaded last for one of them.

* `Settings.ofPlace_eq_ok` says when settings are loaded: each source can be read, the settings can be
  made of them and pass the check.
* `LoadedLast` says that settings were loaded last for a loader of some family.
* `Loaders.settings_loaded_last` says that a loader gives nothing else, and that a failed attempt to load
  settings leaves all loaders as they were, though the variables that were set on the way stay set.
-/

namespace Roster

open Program

/-! ### Variables -/

namespace Environment

theorem get?_map_set (env : Environment) (name value other : String) :
    get? (env.map fun e => if e.1 = name then (name, value) else e) other =
      if name = other then (get? env name).map fun _ => value else get? env other := by
  induction env with
  | nil => simp [get?]
  | cons e env ih =>
    simp only [get?] at ih ⊢
    rw [List.map_cons, Keyed.get?_cons, ih, Keyed.get?_cons, Keyed.get?_cons]
    by_cases he : e.1 = name
    · by_cases hname : name = other <;> simp [he, hname]
    · by_cases hname : name = other
      · have hother : e.1 ≠ other := hname ▸ he
        simp [hname, hother]
      · simp [he, hname]

theorem get?_append_new (env : Environment) (name value other : String) :
    get? (env ++ [(name, value)]) other =
      (get? env other).or (if name = other then some value else none) := by
  induction env with
  | nil => exact Keyed.get?_cons (name, value) [] other
  | cons e env ih =>
    simp only [get?] at ih ⊢
    rw [List.cons_append, Keyed.get?_cons, Keyed.get?_cons, ih]
    by_cases he : e.1 = other <;> simp [he]

theorem get?_set (env : Environment) (name value other : String) :
    (env.set name value).get? other = if name = other then some value else env.get? other := by
  simp only [set, Keyed.has_eq_isSome]
  split
  · rename_i hset
    obtain ⟨old, hold⟩ := Option.isSome_iff_exists.1 hset
    rw [get?_map_set]
    simp only [get?, hold]
    rfl
  · rename_i hunset
    rw [get?_append_new]
    by_cases hname : name = other
    · subst hname
      simp only [get?, Option.not_isSome_iff_eq_none.1 hunset]
      simp
    · simp [hname]

theorem get?_unset (env : Environment) (name other : String) :
    (env.unset name).get? other = if name = other then none else env.get? other :=
  Keyed.get?_erase env name other

end Environment

/-- The lines of a file change no variable that is set. -/
theorem Dotenv.get?_setLines {name value : String} (lines : List (Option (List Char)))
    (given env : Environment) (h : env.get? name = some value) :
    (Dotenv.setLines given lines env).get? name = some value := by
  induction lines generalizing given env with
  | nil => exact h
  | cons line rest ih =>
    cases line with
    | none => exact h
    | some line =>
      simp only [Dotenv.setLines]
      split
      · exact h
      · exact ih given env h
      · rename_i other text _
        refine ih _ _ ?_
        split
        · exact h
        · rename_i hunset
          have hother : other ≠ name := by
            rintro rfl
            rw [h] at hunset
            exact hunset rfl
          rw [Environment.get?_set, if_neg hother, h]

theorem Place.get?_prepared {p : Place} {name value : String}
    (h : p.environment.get? name = some value) :
    p.prepared.environment.get? name = some value := by
  simp only [Place.prepared]
  split
  · exact Dotenv.get?_setLines _ _ _ h
  · exact h

/-! ### Loading -/

/-- Settings are loaded if each source can be read, the settings can be made of what they say, and pass
the check. -/
theorem Settings.ofPlace_eq_ok {dir : String} {p : Place} {s : Settings} :
    Settings.ofPlace dir p = .ok s ↔
      ∃ t, Settings.rawSettings dir p.files p.environment = .ok t ∧ Settings.ofTable t = .ok s ∧
        s.check = .ok () := by
  simp only [Settings.ofPlace]
  rw [bind_eq_ok]
  refine exists_congr fun t => and_congr_right fun _ => ?_
  cases Settings.ofTable t with
  | error e => exact ⟨fun h => (nomatch h), fun ⟨h, _⟩ => (nomatch h)⟩
  | ok made =>
    dsimp only
    rw [bind_eq_ok]
    constructor
    · rintro ⟨_, hcheck, hmade⟩
      cases hmade
      exact ⟨rfl, hcheck⟩
    · rintro ⟨hmade, hcheck⟩
      cases hmade
      exact ⟨(), hcheck, rfl⟩

theorem Loader.load_eq (dir : String) (p : Place) :
    Loader.load dir p = ((Settings.load dir p).1.map fun c => ⟨dir, c⟩, (Settings.load dir p).2) := by
  delta Loader.load
  rfl

theorem Loader.reload_eq (l : Loader) (p : Place) :
    l.reload p = (match (Settings.load l.dir p).1 with
      | .ok c => (.ok (), { l with current := c })
      | .error e => (.error e, l), (Settings.load l.dir p).2) := by
  delta Loader.reload
  rcases Settings.load l.dir p with ⟨_ | _, p⟩ <;> rfl

/-! ### What acts do -/

namespace LoaderAct

/-- An act with its answer. -/
abbrev Done := (x : LoaderAct) × x.Answer

/-- This act has loaded settings for one of these loaders. -/
def Loads (own : Nat → Prop) : Done → Prop
  | ⟨.load _, .ok who⟩ => own who
  | ⟨.reload who, some (.ok ())⟩ => own who
  | _ => False

/-- The variable that an act changes. -/
def changedVariable? : LoaderAct → Option String
  | .set name _ => some name
  | .unset name => some name
  | _ => none

end LoaderAct

namespace Loaders

open LoaderAct

/-- Everything stands for something that was loaded. -/
def Sound (s : Loaders) : Prop := ∀ who part : Nat, s.parts[who]? = some part → part < s.loaded.length

/-- What acts do: a loader is made, or copied, or has loaded its settings again, or nothing changes that
loaders give. -/
inductive Does (s : Loaders) : Done → Loaders → Prop
  | made {dir : String} {c : Settings} : (Settings.load dir s.place).1 = .ok c →
      Does s ⟨.load dir, .ok s.parts.length⟩
        ⟨s.place.prepared, s.loaded ++ [⟨dir, c⟩], s.parts ++ [s.loaded.length]⟩
  | copied {who part : Nat} : s.parts[who]? = some part →
      Does s ⟨.copy who, some s.parts.length⟩ { s with parts := s.parts ++ [part] }
  | reloaded {who part : Nat} {l : Loader} {c : Settings} : s.parts[who]? = some part →
      s.loaded[part]? = some l → (Settings.load l.dir s.place).1 = .ok c →
      Does s ⟨.reload who, some (.ok ())⟩
        ⟨s.place.prepared, s.loaded.set part { l with current := c }, s.parts⟩
  | quiet {d : Done} (p : Place) : (∀ own, ¬ Loads own d) → (∀ who new, d ≠ ⟨.copy who, some new⟩) →
      Does s d (s.movedTo p)

variable {s s' : Loaders} {d : Done}

theorem Sound.loader (h : s.Sound) {who part : Nat} (hpart : s.parts[who]? = some part) :
    ∃ l, s.loaded[part]? = some l ∧ s.loader? who = some l := by
  have hl := List.getElem?_eq_getElem (h who part hpart)
  refine ⟨_, hl, ?_⟩
  simp only [loader?, hpart]
  exact hl

theorem reload_eq {who part : Nat} {l : Loader} (hpart : s.parts[who]? = some part)
    (hl : s.loaded[part]? = some l) :
    s.reload who = match (Settings.load l.dir s.place).1 with
      | .ok c => (some (.ok ()),
          ⟨s.place.prepared, s.loaded.set part { l with current := c }, s.parts⟩)
      | .error e => (some (.error e), s.movedTo s.place.prepared) := by
  have hsame : s.loaded.set part l = s.loaded := by
    obtain ⟨hlt, rfl⟩ := List.getElem?_eq_some_iff.1 hl
    exact List.set_getElem_self hlt
  simp only [reload, loader?, hpart, Option.bind_some, hl]
  rw [Loader.reload_eq]
  cases (Settings.load l.dir s.place).1 with
  | ok c => rfl
  | error e =>
    simp only [movedTo]
    rw [hsame]
    rfl

theorem does_load (s : Loaders) (dir : String) :
    s.Does ⟨.load dir, (s.load dir).1⟩ (s.load dir).2 := by
  simp only [load]
  rw [Loader.load_eq]
  cases hload : (Settings.load dir s.place).1 with
  | ok c => exact .made hload
  | error e => exact .quiet _ (fun _ h => h) (fun _ _ h => nomatch h)

theorem does_copy (s : Loaders) (who : Nat) :
    s.Does ⟨.copy who, (s.copy who).1⟩ (s.copy who).2 := by
  simp only [copy]
  cases hpart : s.parts[who]? with
  | some part => exact .copied hpart
  | none => exact .quiet s.place (fun _ h => h) (fun _ _ h => nomatch h)

theorem does_reload (h : s.Sound) (who : Nat) :
    s.Does ⟨.reload who, (s.reload who).1⟩ (s.reload who).2 := by
  cases hpart : s.parts[who]? with
  | none =>
    simp only [reload, hpart]
    exact .quiet s.place (fun _ h => h) (fun _ _ h => nomatch h)
  | some part =>
    obtain ⟨l, hl, -⟩ := h.loader hpart
    rw [reload_eq hpart hl]
    cases hload : (Settings.load l.dir s.place).1 with
    | ok c => exact .reloaded hpart hl hload
    | error e => exact .quiet _ (fun _ h => h) (fun _ _ h => nomatch h)

theorem does_handle (h : s.Sound) (x : LoaderAct) : s.Does ⟨x, (handle x s).1⟩ (handle x s).2 := by
  cases x with
  | load dir => exact does_load s dir
  | copy who => exact does_copy s who
  | reload who => exact does_reload h who
  | write _ _ | remove _ | set _ _ | unset _ | current _ =>
    exact .quiet _ (fun _ h => h) (fun _ _ h => nomatch h)

theorem concat_eq_some {α : Type} {xs : List α} {x y : α} {n : Nat}
    (h : (xs ++ [x])[n]? = some y) : xs[n]? = some y ∨ n = xs.length ∧ y = x := by
  rw [List.getElem?_append] at h
  split at h
  · exact .inl h
  · rw [List.getElem?_singleton] at h
    split at h
    · exact .inr ⟨by omega, (Option.some.inj h).symm⟩
    · cases h

theorem Does.sound (hd : s.Does d s') (h : s.Sound) : s'.Sound := by
  intro who part hpart
  cases hd with
  | made _ =>
    rw [List.length_append, List.length_singleton]
    rcases concat_eq_some hpart with hold | ⟨-, rfl⟩
    · exact Nat.lt_succ_of_lt (h who part hold)
    · exact Nat.lt_succ_self _
  | copied hcopied =>
    rcases concat_eq_some hpart with hold | ⟨-, rfl⟩
    · exact h who part hold
    · exact h _ _ hcopied
  | reloaded _ _ _ =>
    rw [List.length_set]
    exact h who part hpart
  | quiet p _ _ => exact h who part hpart

/-- Nothing stands for anything else than before. -/
theorem Does.parts_prefix (hd : s.Does d s') : s.parts <+: s'.parts := by
  cases hd with
  | made _ => exact List.prefix_append _ _
  | copied _ => exact List.prefix_append _ _
  | reloaded _ _ _ => exact List.prefix_refl _
  | quiet p _ _ => exact List.prefix_refl _

theorem part_kept {parts later : List Nat} (h : parts <+: later) {who part : Nat}
    (hpart : parts[who]? = some part) : later[who]? = some part := by
  obtain ⟨hlt, rfl⟩ := List.getElem?_eq_some_iff.1 hpart
  exact List.prefix_iff_getElem?.1 h who hlt

/-! ### Runs -/

/-- The loaders after acts in a place that had none. -/
def afterActs (p : Place) (acts : List LoaderAct) : Loaders := after handle acts (start p)

/-- The acts with their answers. -/
def doneActs (p : Place) (acts : List LoaderAct) : List Done := answers handle acts (start p)

variable {p : Place} {acts : List LoaderAct}

theorem afterActs_concat (p : Place) (acts : List LoaderAct) (x : LoaderAct) :
    afterActs p (acts ++ [x]) = (handle x (afterActs p acts)).2 :=
  after_append handle acts [x] (start p)

theorem after_afterActs (p : Place) (before since : List LoaderAct) (x : LoaderAct) :
    after handle since (afterActs p (before ++ [x])) = afterActs p (before ++ x :: since) := by
  simp only [afterActs]
  rw [← after_append, List.append_assoc, List.singleton_append]

theorem doneActs_concat (p : Place) (acts : List LoaderAct) (x : LoaderAct) :
    doneActs p (acts ++ [x]) = doneActs p acts ++ [⟨x, (handle x (afterActs p acts)).1⟩] :=
  answers_append handle acts [x] (start p)

theorem sound_afterActs (p : Place) (acts : List LoaderAct) : (afterActs p acts).Sound := by
  have hstart : (start p).Sound := fun who part hpart => nomatch hpart
  exact after_induction (P := Sound) (fun x s hs => (does_handle hs x).sound hs) hstart acts

theorem does_last (p : Place) (acts : List LoaderAct) (x : LoaderAct) :
    (afterActs p acts).Does ⟨x, (handle x (afterActs p acts)).1⟩ (afterActs p (acts ++ [x])) := by
  rw [afterActs_concat]
  exact does_handle (sound_afterActs p acts) x

/-- What was done was done in some state on the way. -/
theorem does_of_done {d : Done} (h : d ∈ doneActs p acts) :
    ∃ s s' : Loaders, s.Does d s' ∧ s'.parts <+: (afterActs p acts).parts := by
  induction acts using List.reverseRecOn with
  | nil => cases h
  | append_singleton acts x ih =>
    have hdoes := does_last p acts x
    rw [doneActs_concat] at h
    rcases List.mem_append.1 h with hold | hlast
    · obtain ⟨s, s', hbefore, hparts⟩ := ih hold
      exact ⟨s, s', hbefore, hparts.trans hdoes.parts_prefix⟩
    · rw [List.mem_singleton.1 hlast]
      exact ⟨_, _, hdoes, List.prefix_refl _⟩

/-! ### Kin -/

/-- A loader and its copies are kin, and so are the copies of copies. -/
def Kin (done : List Done) : Nat → Nat → Prop :=
  Relation.EqvGen fun who new => (⟨.copy who, some new⟩ : Done) ∈ done

theorem Kin.mono {done later : List Done} (hlater : done ⊆ later) {who other : Nat}
    (h : Kin done who other) : Kin later who other :=
  Relation.EqvGen.mono (fun _ _ hcopy => hlater hcopy) who other h

/-- A copy stands for the same as what it is a copy of. -/
theorem parts_of_copied {who new : Nat} (h : (⟨.copy who, some new⟩ : Done) ∈ doneActs p acts) :
    ∃ part, (afterActs p acts).parts[who]? = some part ∧ (afterActs p acts).parts[new]? = some part := by
  obtain ⟨s, s', hdoes, hparts⟩ := does_of_done h
  cases hdoes with
  | copied hwho =>
    have hbefore := (List.prefix_append _ _).trans hparts
    exact ⟨_, part_kept hbefore hwho, part_kept hparts List.getElem?_concat_length⟩
  | quiet p _ hno => exact absurd rfl (hno who new)

theorem part_of_made {dir : String} {who : Nat} (h : (⟨.load dir, .ok who⟩ : Done) ∈ doneActs p acts) :
    ∃ part, (afterActs p acts).parts[who]? = some part := by
  obtain ⟨s, s', hdoes, hparts⟩ := does_of_done h
  cases hdoes with
  | made _ => exact ⟨_, part_kept hparts List.getElem?_concat_length⟩
  | quiet p hquiet _ => exact absurd trivial (hquiet fun _ => True)

/-- Kin stand for the same. -/
theorem parts_of_kin {who other : Nat} (h : Kin (doneActs p acts) who other) :
    (afterActs p acts).parts[who]? = (afterActs p acts).parts[other]? := by
  induction h with
  | rel who new hcopy =>
    obtain ⟨part, hwho, hnew⟩ := parts_of_copied hcopy
    rw [hwho, hnew]
  | refl who => rfl
  | symm who other _ ih => exact ih.symm
  | trans who mid other _ _ ih ih' => exact ih.trans ih'

/-- What stands for the same is kin. -/
theorem kin_of_parts {who other part : Nat} (hwho : (afterActs p acts).parts[who]? = some part)
    (hother : (afterActs p acts).parts[other]? = some part) : Kin (doneActs p acts) who other := by
  induction acts using List.reverseRecOn generalizing who other with
  | nil => cases hwho
  | append_singleton acts x ih =>
    have hdoes := does_last p acts x
    have hsound := sound_afterActs p acts
    have hkin : ∀ {who other : Nat}, (afterActs p acts).parts[who]? = some part →
        (afterActs p acts).parts[other]? = some part → Kin (doneActs p (acts ++ [x])) who other := by
      intro who other hwho hother
      rw [doneActs_concat]
      exact (ih hwho hother).mono (List.subset_append_left _ _)
    have hlast : (⟨x, (handle x (afterActs p acts)).1⟩ : Done) ∈ doneActs p (acts ++ [x]) := by
      rw [doneActs_concat]
      exact List.mem_append_right _ (List.mem_singleton.2 rfl)
    generalize hd : (⟨x, (handle x (afterActs p acts)).1⟩ : Done) = d at hdoes hlast
    generalize afterActs p (acts ++ [x]) = later at hdoes hwho hother
    cases hdoes with
    | quiet p _ _ => exact hkin hwho hother
    | reloaded _ _ _ => exact hkin hwho hother
    | made _ =>
      -- what was just loaded has no other part
      rcases concat_eq_some hwho with hwho | ⟨rfl, hnew⟩ <;>
        rcases concat_eq_some hother with hother | ⟨rfl, hnew'⟩
      · exact hkin hwho hother
      · exact absurd (hsound who part hwho) (by omega)
      · exact absurd (hsound other part hother) (by omega)
      · exact Relation.EqvGen.refl _
    | copied hcopied =>
      -- the copy is kin to what it is a copy of, and so to all that are
      rcases concat_eq_some hwho with hwho | ⟨rfl, rfl⟩ <;>
        rcases concat_eq_some hother with hother | ⟨rfl, hpart⟩
      · exact hkin hwho hother
      · rw [← hpart] at hcopied
        exact (hkin hwho hcopied).trans _ _ _ (.rel _ _ hlast)
      · exact .symm _ _ ((hkin hother hcopied).trans _ _ _ (.rel _ _ hlast))
      · exact Relation.EqvGen.refl _

/-! ### What was loaded last -/

/-- The settings were loaded from a directory for one of these loaders, and none have been loaded for
one of them since. -/
def LoadedLast (p : Place) (acts : List LoaderAct) (own : Nat → Prop) (dir : String) (c : Settings) :
    Prop :=
  ∃ before x since, acts = before ++ x :: since ∧
    Loads own ⟨x, (handle x (afterActs p before)).1⟩ ∧
    (Settings.load dir (afterActs p before).place).1 = .ok c ∧
    ∀ d ∈ answers handle since (afterActs p (before ++ [x])), ¬ Loads own d

variable {own : Nat → Prop} {dir : String} {c : Settings} {x : LoaderAct}

theorem LoadedLast.now (hloads : Loads own ⟨x, (handle x (afterActs p acts)).1⟩)
    (hload : (Settings.load dir (afterActs p acts).place).1 = .ok c) :
    LoadedLast p (acts ++ [x]) own dir c :=
  ⟨acts, x, [], rfl, hloads, hload, fun _ h => nomatch h⟩

theorem LoadedLast.concat (h : LoadedLast p acts own dir c)
    (hquiet : ¬ Loads own ⟨x, (handle x (afterActs p acts)).1⟩) :
    LoadedLast p (acts ++ [x]) own dir c := by
  obtain ⟨before, y, since, rfl, hloads, hload, hsince⟩ := h
  refine ⟨before, y, since ++ [x], by simp, hloads, hload, ?_⟩
  intro d hd
  rw [answers_append, after_afterActs] at hd
  rcases List.mem_append.1 hd with hold | hlast
  · exact hsince d hold
  · rwa [List.mem_singleton.1 hlast]

theorem LoadedLast.congr {other : Nat → Prop} (h : LoadedLast p acts own dir c)
    (hown : ∀ who, own who ↔ other who) : LoadedLast p acts other dir c := by
  obtain rfl : own = other := funext fun who => propext (hown who)
  exact h

/-- What is shared was loaded last for those that share it, from the directory that one of them was made
for. `parts` says who shares what, then or later. -/
theorem loadedLast_of_part {parts : List Nat} (hparts : (afterActs p acts).parts <+: parts) {part : Nat}
    {l : Loader} (hl : (afterActs p acts).loaded[part]? = some l) :
    (∃ who, parts[who]? = some part ∧ (⟨.load l.dir, .ok who⟩ : Done) ∈ doneActs p acts) ∧
      LoadedLast p acts (fun who => parts[who]? = some part) l.dir l.current := by
  induction acts using List.reverseRecOn generalizing l with
  | nil => cases hl
  | append_singleton acts x ih =>
    have hdoes := does_last p acts x
    have hlast : (⟨x, (handle x (afterActs p acts)).1⟩ : Done) ∈ doneActs p (acts ++ [x]) := by
      rw [doneActs_concat]
      exact List.mem_append_right _ (List.mem_singleton.2 rfl)
    have hbefore := hdoes.parts_prefix.trans hparts
    have hold : ∀ {l : Loader}, (afterActs p acts).loaded[part]? = some l →
        ∃ who, parts[who]? = some part ∧ (⟨.load l.dir, .ok who⟩ : Done) ∈ doneActs p (acts ++ [x]) := by
      intro l hl
      obtain ⟨who, hwho, hmade⟩ := (ih hbefore hl).1
      rw [doneActs_concat]
      exact ⟨who, hwho, List.mem_append_left _ hmade⟩
    have hkept : ∀ {l : Loader}, (afterActs p acts).loaded[part]? = some l →
        ¬ Loads (fun who => parts[who]? = some part) ⟨x, (handle x (afterActs p acts)).1⟩ →
        LoadedLast p (acts ++ [x]) (fun who => parts[who]? = some part) l.dir l.current :=
      fun hl hquiet => (ih hbefore hl).2.concat hquiet
    have hnow : ∀ {dir : String} {c : Settings},
        Loads (fun who => parts[who]? = some part) ⟨x, (handle x (afterActs p acts)).1⟩ →
        (Settings.load dir (afterActs p acts).place).1 = .ok c →
        LoadedLast p (acts ++ [x]) (fun who => parts[who]? = some part) dir c :=
      LoadedLast.now
    generalize (⟨x, (handle x (afterActs p acts)).1⟩ : Done) = d at *
    generalize afterActs p (acts ++ [x]) = later at *
    cases hdoes with
    | quiet p hquiet _ => exact ⟨hold hl, hkept hl (hquiet _)⟩
    | copied _ => exact ⟨hold hl, hkept hl fun h => h⟩
    | made hload =>
      have hnew := part_kept hparts (List.getElem?_concat_length)
      rcases concat_eq_some hl with hl | ⟨rfl, rfl⟩
      · refine ⟨hold hl, hkept hl fun h => ?_⟩
        have hlt := (List.getElem?_eq_some_iff.1 hl).1
        rw [Option.some.inj (hnew.symm.trans h)] at hlt
        exact Nat.lt_irrefl _ hlt
      · exact ⟨⟨_, hnew, hlast⟩, hnow hnew hload⟩
    | reloaded hwho hshared hload =>
      have hown := part_kept hparts hwho
      rw [List.getElem?_set] at hl
      split at hl
      · rename_i heq
        subst heq
        split at hl
        · cases hl
          have hmade := hold hshared
          exact ⟨hmade, hnow hown hload⟩
        · cases hl
      · rename_i hne
        refine ⟨hold hl, hkept hl fun h => hne ?_⟩
        exact Option.some.inj (hown.symm.trans h)

/-! ### What stays -/

/-- Only acts that change a variable change it when it is set. -/
theorem get?_handle {name value : String} (hset : s.place.environment.get? name = some value)
    {x : LoaderAct} (hx : x.changedVariable? ≠ some name) :
    (handle x s).2.place.environment.get? name = some value := by
  cases x with
  | write _ _ | remove _ | current _ => exact hset
  | set other text =>
    have hother : other ≠ name := fun h => hx (congrArg some h)
    simp only [handle, movedTo]
    rw [Environment.get?_set, if_neg hother, hset]
  | unset other =>
    have hother : other ≠ name := fun h => hx (congrArg some h)
    simp only [handle, movedTo]
    rw [Environment.get?_unset, if_neg hother, hset]
  | load dir =>
    simp only [handle, load]
    rw [Loader.load_eq]
    cases (Settings.load dir s.place).1 <;> exact Place.get?_prepared hset
  | copy who =>
    simp only [handle, copy]
    split <;> exact hset
  | reload who =>
    simp only [handle, reload]
    split
    · rw [Loader.reload_eq]
      exact Place.get?_prepared hset
    · exact hset

theorem get?_after {name value : String} {later : List LoaderAct}
    (hlater : ∀ x ∈ later, x.changedVariable? ≠ some name)
    (hset : s.place.environment.get? name = some value) :
    (after handle later s).place.environment.get? name = some value := by
  induction later generalizing s with
  | nil => exact hset
  | cons x later ih =>
    have hx := get?_handle hset (hlater x List.mem_cons_self)
    exact ih (fun y hy => hlater y (List.mem_cons_of_mem x hy)) hx

/-- A loader fails to load its settings again exactly if they cannot be loaded. -/
theorem reload_fails_iff (h : s.Sound) {who : Nat} {e : Failure} :
    (s.reload who).1 = some (.error e) ↔
      ∃ l, s.loader? who = some l ∧ (Settings.load l.dir s.place).1 = .error e := by
  cases hpart : s.parts[who]? with
  | none =>
    simp only [reload, loader?, hpart]
    exact ⟨fun he => (nomatch he), fun ⟨l, hl, _⟩ => (nomatch hl)⟩
  | some part =>
    obtain ⟨l, hl, hloader⟩ := h.loader hpart
    rw [reload_eq hpart hl, hloader]
    cases hload : (Settings.load l.dir s.place).1 with
    | ok c =>
      refine ⟨fun he => (nomatch he), ?_⟩
      rintro ⟨l', hl', he⟩
      cases hl'
      cases hload.symm.trans he
    | error e' =>
      refine ⟨fun he => ?_, ?_⟩
      · cases he
        exact ⟨l, rfl, hload⟩
      · rintro ⟨l', hl', he⟩
        cases hl'
        cases hload.symm.trans he
        rfl

/-- Then nothing but the place has changed. -/
theorem reload_failed (h : s.Sound) {who : Nat} {e : Failure}
    (he : (s.reload who).1 = some (.error e)) : (s.reload who).2 = s.movedTo s.place.prepared := by
  obtain ⟨l, hloader, hload⟩ := (reload_fails_iff h).1 he
  obtain ⟨part, hpart, hl⟩ := Option.bind_eq_some_iff.1 hloader
  rw [reload_eq hpart hl, hload]

/-- Every loader that was made and every copy gives settings. They pass the check, and they are what was
loaded last for it or for one of its kin, when one of them was made or loaded its settings again. A
loader fails to load its settings again exactly if they cannot be loaded. That leaves what every loader
gives as it was; the variables that `.env` sets stay set until they are changed. -/
theorem settings_loaded_last (p : Place) (acts : List LoaderAct) :
    (∀ who, (∃ dir, (⟨.load dir, .ok who⟩ : Done) ∈ doneActs p acts) ∨
        (∃ other, (⟨.copy other, some who⟩ : Done) ∈ doneActs p acts) →
      ∃ c, (handle (.current who) (afterActs p acts)).1 = some c) ∧
    (∀ who c, (handle (.current who) (afterActs p acts)).1 = some c →
      c.check = .ok () ∧ ∃ dir first, (⟨.load dir, .ok first⟩ : Done) ∈ doneActs p acts ∧
        Kin (doneActs p acts) who first ∧ LoadedLast p acts (Kin (doneActs p acts) who) dir c) ∧
    ∀ who e, ((handle (.reload who) (afterActs p acts)).1 = some (.error e) ↔
        ∃ l, (afterActs p acts).loader? who = some l ∧
          (Settings.load l.dir (afterActs p acts).place).1 = .error e) ∧
      ((handle (.reload who) (afterActs p acts)).1 = some (.error e) →
      (∀ other, (afterActs p (acts ++ [.reload who])).current? other =
        (afterActs p acts).current? other) ∧
      (afterActs p (acts ++ [.reload who])).place = (afterActs p acts).place.prepared ∧
      ∀ name value, (afterActs p (acts ++ [.reload who])).place.environment.get? name = some value →
        ∀ later, (∀ x ∈ later, x.changedVariable? ≠ some name) →
          (afterActs p (acts ++ .reload who :: later)).place.environment.get? name = some value) := by
  have hsound := sound_afterActs p acts
  have hparts : ∀ who part : Nat, (afterActs p acts).parts[who]? = some part → ∃ l,
      (afterActs p acts).loaded[part]? = some l ∧ (afterActs p acts).current? who = some l.current := by
    intro who part hpart
    obtain ⟨l, hl, hloader⟩ := hsound.loader hpart
    exact ⟨l, hl, congrArg (Option.map _) hloader⟩
  refine ⟨fun who hmade => ?_, fun who c hc => ?_, fun who e => ⟨reload_fails_iff hsound, fun he => ?_⟩⟩
  · obtain ⟨part, hpart⟩ : ∃ part, (afterActs p acts).parts[who]? = some part := by
      rcases hmade with ⟨dir, hmade⟩ | ⟨other, hcopied⟩
      · exact part_of_made hmade
      · obtain ⟨part, -, hpart⟩ := parts_of_copied hcopied
        exact ⟨part, hpart⟩
    obtain ⟨l, -, hcurrent⟩ := hparts who part hpart
    exact ⟨l.current, hcurrent⟩
  · obtain ⟨l, hloader, rfl⟩ := Option.map_eq_some_iff.1 hc
    obtain ⟨part, hpart, hl⟩ := Option.bind_eq_some_iff.1 hloader
    obtain ⟨⟨first, hfirst, hmade⟩, hlast⟩ := loadedLast_of_part (List.prefix_refl _) hl
    have hown : ∀ other : Nat, (afterActs p acts).parts[other]? = some part ↔
        Kin (doneActs p acts) who other :=
      fun other => ⟨kin_of_parts hpart, fun hkin => (parts_of_kin hkin).symm.trans hpart⟩
    refine ⟨?_, l.dir, first, hmade, (hown first).1 hfirst, hlast.congr hown⟩
    obtain ⟨before, x, since, -, -, hload, -⟩ := hlast
    obtain ⟨t, -, -, hcheck⟩ := Settings.ofPlace_eq_ok.1 hload
    exact hcheck
  · have hstate := (afterActs_concat p acts (.reload who)).trans (reload_failed hsound he)
    refine ⟨fun other => ?_, ?_, fun name value hset later hlater => ?_⟩
    · rw [hstate]
      rfl
    · rw [hstate]
      rfl
    · rw [← after_afterActs]
      exact get?_after hlater hset

/-- Acts for a trial: a loader is made and copied, and `.env` names a setting that does not pass. -/
def trialActs : List LoaderAct :=
  [.load "config", .copy 0, .write ".env" "STRATA__CACHE__MAX_COST=0"]

theorem settings_loaded_last_in_trial :
    (∃ c, (handle (.current 1) (afterActs ⟨[], []⟩ trialActs)).1 = some c ∧ c.check = .ok ()) ∧
      ∃ e, (handle (.reload 0) (afterActs ⟨[], []⟩ trialActs)).1 = some (.error e) ∧
        (afterActs ⟨[], []⟩ (trialActs ++ [.reload 0])).current? 1 =
          (afterActs ⟨[], []⟩ trialActs).current? 1 ∧
        (afterActs ⟨[], []⟩ (trialActs ++ [.reload 0])).place.environment.get?
          "STRATA__CACHE__MAX_COST" = some "0" := by
  obtain ⟨hgives, hchecked, hfails⟩ := settings_loaded_last ⟨[], []⟩ trialActs
  refine ⟨?_, .configuration "'cache.max_cost' must be greater than zero", rfl, ?_, rfl⟩
  · obtain ⟨c, hc⟩ := hgives 1 (.inr ⟨0, .tail _ (.head _)⟩)
    exact ⟨c, hc, (hchecked 1 c hc).1⟩
  · exact ((hfails 0 _).2 rfl).1 1

end Loaders

end Roster
