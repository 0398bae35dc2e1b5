import Roster.Log.Filter
import Roster.Proofs.Text.Digits
import Roster.Proofs.Text.Lowercase
import Roster.Settings.Validation

/-!
# Levels that are set and filters

The check of the settings and the filters read the name of a level in two ways: the check brings it to
lower case as Unicode has it, and filters do so with the capitals of ASCII alone. Since the names of
the levels have simple letters only, what the check lets pass is a level for filters too.

* `Directive.ofText_level` reads a directive that is the name of a level.
* `LogSettings.filter_of_faultless` says which filter a level becomes that the check lets pass, and
  `Filter.usual_passes` that this filter keeps the events of the program itself.
-/

namespace Roster.Log

open Roster.Text

/-! ### Names of levels -/

/-- The name of a level in the settings. -/
def Level.setName (level : Level) : List Char := level.name.toList.map Char.toLower

theorem exists_setName {text : String} (h : text ∈ logLevels) :
    ∃ level : Level, level.setName = text.toList := by
  simp only [logLevels, List.mem_cons, List.not_mem_nil, or_false] at h
  rcases h with rfl | rfl | rfl | rfl | rfl
  · exact ⟨.trace, by decide⟩
  · exact ⟨.debug, by decide⟩
  · exact ⟨.info, by decide⟩
  · exact ⟨.warn, by decide⟩
  · exact ⟨.error, by decide⟩

theorem isSimpleLetter_of_mem_setName {level : Level} {d : Char} (h : d ∈ level.setName) :
    isSimpleLetter d = true := by
  have hall : level.setName.all isSimpleLetter = true := by cases level <;> rfl
  exact List.all_eq_true.1 hall d h

theorem find?_setName (level : Level) :
    (Limit.names.find? fun n => n.1.toList = level.setName).map (·.2) = some (some level) := by
  cases level <;> decide

/-- A filter knows a level in either case. -/
theorem Limit.ofText?_level {cs : List Char} {level : Level} (h : cs.map Char.toLower = level.setName)
    (hlatin : ∀ c ∈ cs, isLatin c = true) : Limit.ofText? cs = some (some level) := by
  simp only [Limit.ofText?]
  rw [natOfText?_latin hlatin, h]
  exact find?_setName level

/-! ### Directives -/

namespace Directive

theorem readFrom_word (all : List Char) (i since : Nat) (d : Directive) {cs : List Char}
    (h : ∀ c ∈ cs, isLatin c = true) :
    readFrom all i d (.word since) cs = .ok (.word since, d) := by
  induction cs generalizing i with
  | nil => rfl
  | cons c cs ih =>
    have hc : c ≠ '=' ∧ c ≠ '[' := by
      constructor <;> rintro rfl <;> exact absurd (h _ List.mem_cons_self) (by decide)
    simp only [readFrom, next]
    rw [if_neg hc.1, if_neg hc.2]
    exact ih (i + 1) fun c hmem => h c (List.mem_cons_of_mem _ hmem)

theorem canStart_of_latin {c : Char} (h : isLatin c = true) : canStart c = true := by
  have hascii : c.toNat < 128 := by
    simp only [isLatin, Bool.or_eq_true, Bool.and_eq_true, decide_eq_true_eq] at h
    rcases h with ⟨-, hhigh⟩ | ⟨-, hhigh⟩
    · exact Nat.lt_of_le_of_lt hhigh (by decide)
    · exact Nat.lt_of_le_of_lt hhigh (by decide)
  simp only [canStart, isLetterOrDigit]
  rw [if_pos hascii, h]
  simp

/-- The directive that limits all events to a level. -/
def ofLevel (level : Level) : Directive := { unlimited with limit := some level }

/-- The directive about the program itself. -/
def own : Directive := ⟨some "strata".toList, none, none, false, some .debug⟩

theorem ofText_own : ofText ownDirective.toList = .ok own := by rfl

/-- A directive that is the name of a level limits all events. -/
theorem ofText_level {cs : List Char} {level : Level} (h : cs.map Char.toLower = level.setName)
    (hlatin : ∀ c ∈ cs, isLatin c = true) :
    ofText cs = .ok (ofLevel level) := by
  have htrim : trim cs = cs :=
    trim_eq_self (fun c hc => (not_digit_of_latin (hlatin c (List.mem_of_head? hc))).2)
      (fun c hc => (not_digit_of_latin (hlatin c (List.mem_of_getLast? hc))).2)
  have hread : readFrom cs 0 unlimited .start cs = .ok (.word 0, unlimited) := by
    cases cs with
    | nil => cases level <;> exact absurd h (by decide)
    | cons c cs =>
      have hc := hlatin c List.mem_cons_self
      have hopen : c ≠ '[' := by
        rintro rfl
        exact absurd hc (by decide)
      simp only [readFrom, next]
      rw [if_neg hopen, if_pos (canStart_of_latin hc)]
      exact readFrom_word _ 1 0 unlimited fun d hd => hlatin d (List.mem_cons_of_mem _ hd)
  have hfinish : finish cs unlimited (.word 0) = .ok (ofLevel level) := by
    simp only [finish, List.drop_zero]
    rw [Limit.ofText?_level h hlatin]
    rfl
  simp only [ofText]
  rw [htrim, hread]
  exact hfinish

end Directive

/-! ### The filter for a level -/

/-- The filter for a level that is set: all events up to the level pass, and those of the program
itself down to `debug`. -/
def Filter.usual (level : Level) : Filter := ⟨[.ofLevel level, .own]⟩

theorem Filter.ofText_level {text : String} {level : Level}
    (h : text.toList.map Char.toLower = level.setName)
    (hlatin : ∀ c ∈ text.toList, isLatin c = true) :
    Filter.ofText (text ++ "," ++ ownDirective) = .ok (usual level) := by
  have htext : (text ++ "," ++ ownDirective).toList = text.toList ++ ',' :: ownDirective.toList := by
    simp [String.toList_append]
  have hpieces : pieces ',' (text ++ "," ++ ownDirective).toList =
      [text.toList, ownDirective.toList] := by
    rw [htext, pieces_cut fun hmem => absurd (hlatin _ hmem) (by decide)]
    rfl
  have hwritten : text.toList ≠ [] := by
    intro hnil
    rw [hnil] at h
    cases level <;> exact absurd h (by decide)
  have hread : [text.toList, ownDirective.toList].mapM Directive.ofText =
      .ok (usual level).directives := by
    rw [List.mapM_cons, Directive.ofText_level h hlatin, List.mapM_cons, Directive.ofText_own]
    rfl
  have hkept : [text.toList, ownDirective.toList].filter (!·.isEmpty) =
      [text.toList, ownDirective.toList] := by
    rw [List.filter_cons_of_pos (by simpa using hwritten)]
    rfl
  simp only [ofText]
  rw [hpieces, hkept, hread]
  rfl

/-- The events of the program itself are kept down to `debug`, whatever level is set. -/
theorem Filter.usual_passes (level : Level) {e : Event}
    (hown : "strata".toList.isPrefixOf e.target.toList = true) (hlevel : e.level ≠ .trace) :
    (usual level).passes e = true := by
  have hgeneral : (Directive.ofLevel level).concerns e = true := rfl
  have hconcerns : Directive.own.concerns e = true := by
    simp only [Directive.concerns, Directive.own, Option.all_some, hown]
    rfl
  have hrank : (Directive.ofLevel level).outranks .own = false := by cases level <;> decide
  have hdeciding : (usual level).deciding? e = some .own := by
    simp only [deciding?, usual]
    rw [List.filter_cons_of_pos (by exact hgeneral), List.filter_cons_of_pos (by exact hconcerns)]
    simp [hrank]
  simp only [passes]
  rw [hdeciding]
  cases he : e.level with
  | trace => exact absurd he hlevel
  | _ => rfl

end Roster.Log

namespace Roster

open Roster.Log Roster.Text

/-- A level that the check lets pass becomes the filter for it. -/
theorem LogSettings.filter_of_faultless {s : LogSettings} (h : s.faults = []) :
    ∃ level : Level, lower s.level.toList = level.setName ∧ s.filter none = .ok (.usual level) := by
  have hlevel : lowered s.level ∈ logLevels := by
    simp only [faults, faultIf] at h
    split at h
    · cases h
    · rename_i hc
      simpa using hc
  obtain ⟨level, hname⟩ := exists_setName hlevel
  have hlower : lower s.level.toList = level.setName := by
    rw [hname, lowered, String.toList_ofList]
  have hsimple : ∀ d ∈ lower s.level.toList, isSimpleLetter d = true := by
    rw [hlower]
    exact fun d hd => isSimpleLetter_of_mem_setName hd
  obtain ⟨hforms, hlatin⟩ := lower_of_simple hsimple
  refine ⟨level, hlower, ?_⟩
  simp only [filter, Option.bind_none]
  rw [Filter.ofText_level (hforms.symm.trans hlower) hlatin]

end Roster
