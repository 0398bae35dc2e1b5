import Roster.Proofs.Cache.Tiers

/-!
# One key of a shared remote tier

Several caches may stand in front of one remote tier. If that tier is a map, what it holds under a key
is what each of them finds there: a local tier may have lost its copy, but it has no other.

* `Shows` says that this is all that one cache can find under the key.
* `Shows.get_fst` says what a lookup answers, and `Shows.get`, `Shows.set_other`, `Shows.delete_other`,
  `Shows.set` and `Shows.delete` what can be found afterwards.
-/

namespace Roster.Cache.Layered

variable {ρ : Type}

/-- The remote tier holds just this under a key, and the local tier this or nothing. -/
structure Shows (view : ρ → String → Option ByteArray) (key : String) (held : Option ByteArray)
    (s : Tiers ρ) : Prop where
  far : view s.far key = held
  near {value : ByteArray} : s.near.find? key = some value → held = some value

section

variable {c : Layered ρ} {may : ρ → Prop} {view : ρ → String → Option ByteArray}
  (h : c.Faithful may view) (hremote : c.hasRemote = true) {s : Tiers ρ} (hs : may s.far)
  {key other : String} {held : Option ByteArray}

include h hremote hs

/-- A lookup answers with what the remote tier holds. -/
theorem Shows.get_fst (hk : Shows view key held s) : (c.get key s).1 = held := by
  obtain ⟨r, hr⟩ := Option.isSome_iff_exists.1 hremote
  rw [Layered.get_fst]
  cases hnear : s.near.find? key with
  | some value => rw [hk.near hnear, Option.some_or]
  | none =>
    rw [Option.none_or, ← hk.far]
    cases hfar : view s.far key with
    | none =>
      cases hanswer : c.farAnswer? key s.far with
      | none => rfl
      | some value =>
        have hheld := far?_of_farAnswer? h.keeps hs hanswer
        rw [far?_of_some hr, hfar] at hheld
        cases hheld
    | some value =>
      simp only [farAnswer?]
      rw [hr, Option.bind_some, (h r hr).get_found hs hfar]
      rfl

/-- Looking up any key changes nothing. -/
theorem Shows.get (hk : Shows view key held s) : Shows view key held (c.get other s).2 := by
  obtain ⟨r, hr⟩ := Option.isSome_iff_exists.1 hremote
  refine ⟨?_, fun {value} hnear => ?_⟩
  · have hfar := congrFun (far_get h.keeps hs other).2 key
    rw [far?_of_some hr, far?_of_some hr] at hfar
    rw [hfar]
    exact hk.far
  · rcases near_get hnear with hbefore | ⟨rfl, hanswer⟩
    · exact hk.near hbefore
    · rw [← hk.get_fst h hremote hs]
      exact hanswer

/-- Setting the value under another key changes nothing. -/
theorem Shows.set_other (hk : Shows view key held s) (hne : other ≠ key) (value : ByteArray) :
    Shows view key held (c.set other value s) := by
  obtain ⟨r, hr⟩ := Option.isSome_iff_exists.1 hremote
  refine ⟨?_, fun {found} hnear => ?_⟩
  · rw [view_set h hs hr, if_neg hne]
    exact hk.far
  · rcases near_set hnear with ⟨heq, -⟩ | ⟨-, hbefore⟩
    · exact absurd heq hne
    · exact hk.near hbefore

/-- Removing another key changes nothing. -/
theorem Shows.delete_other (hk : Shows view key held s) (hne : other ≠ key) :
    Shows view key held (c.delete other s) := by
  obtain ⟨r, hr⟩ := Option.isSome_iff_exists.1 hremote
  refine ⟨?_, fun {found} hnear => hk.near (near_delete hnear).2⟩
  rw [view_delete h hs hr, if_neg hne]
  exact hk.far

/-- A value that is set is all that can be found. -/
theorem Shows.set (value : ByteArray) : Shows view key (some value) (c.set key value s) := by
  obtain ⟨r, hr⟩ := Option.isSome_iff_exists.1 hremote
  refine ⟨?_, fun {found} hnear => ?_⟩
  · rw [view_set h hs hr, if_pos rfl]
  · rcases near_set hnear with ⟨-, hset⟩ | ⟨hne, -⟩
    · rw [hset]
    · exact absurd rfl hne

/-- Nothing can be found under a key that is removed. -/
theorem Shows.delete : Shows view key none (c.delete key s) := by
  obtain ⟨r, hr⟩ := Option.isSome_iff_exists.1 hremote
  refine ⟨?_, fun {found} hnear => ?_⟩
  · rw [view_delete h hs hr, if_pos rfl]
  · exact absurd rfl (near_delete hnear).1

end

/-- Maintenance of the local tier changes nothing. -/
theorem Shows.maintain {view : ρ → String → Option ByteArray} {key : String}
    {held : Option ByteArray} {s : Tiers ρ} (hk : Shows view key held s) :
    Shows view key held { s with near := s.near.maintain } where
  far := hk.far
  near hnear := hk.near ((Local.shrinks_maintain s.near).find?_before hnear)

end Roster.Cache.Layered
