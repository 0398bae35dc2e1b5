import Roster.Proofs.Cache.Payload
import Roster.Proofs.Service.Requests

/-!
# When cached pages were taken

The generation in the key of a cached page tells when the page was taken.

* `Dated` says so of every page that is held. It is kept by every operation, whatever the tiers do
  (`Dated.step`), and so by every run (`Dated.after`).
* `Dated.listing` says that a listing is answered with a page that was taken in the present generation.
-/

namespace Roster.Service

open Roster.Cache Roster.Store

variable {α ρ : Type}

/-- The page that the service behind has for a request. -/
def CachedState.page (s : Fronted ρ) (r : PageRequest) : Page User := s.behind.store.table.page r

/-! ### Pages and their generations -/

/-- Every page that is held is one that `past` knows for the generation in its key. -/
structure Dated (held : Tiers ρ → String → ByteArray → Prop)
    (past : Nat → PageRequest → Page User → Prop) (t : Tiers ρ) : Prop where
  taken {g : Nat} {r : PageRequest} {bytes : ByteArray} {b : Bundle} :
    held t (pageKey g r) bytes → decodeBundle? bytes = some b → past g r (b.page r)

/-- No page is held. -/
structure Bare (held : Tiers ρ → String → ByteArray → Prop) (t : Tiers ρ) : Prop where
  no_page {g : Nat} {r : PageRequest} {bytes : ByteArray} :
    held t (pageKey g r) bytes → decodeBundle? bytes = none

theorem Bare.dated {held : Tiers ρ → String → ByteArray → Prop} {t : Tiers ρ} (h : Bare held t)
    (past : Nat → PageRequest → Page User → Prop) : Dated held past t where
  taken hh hb := by
    rw [h.no_page hh] at hb
    cases hb

section Dated

variable {cache : Layered ρ} {may : ρ → Prop} {firm : Prop}
  {held : Tiers ρ → String → ByteArray → Prop} (h : cache.Traced may firm held) {s : Fronted ρ}
  {past : Nat → PageRequest → Page User → Prop}

include h

/-- An operation caches no page but the present one, for the present generation. -/
theorem Dated.step (hfar : may s.tiers.far) (hsound : s.behind.store.table.Sound)
    (hpresent : ∀ r, past s.generation.current r (s.page r)) (hd : Dated held past s.tiers)
    (op : Operation) : Dated held past ((fronted cache).run op s).2.tiers := by
  refine ⟨fun {g r bytes b} hh hb => ?_⟩
  cases origin_step h.toTracked hfar hsound op hh with
  | kept before same => exact hd.taken before hb
  | fetched answer lookup asked same => exact hd.taken (h.of_answer hfar answer) hb
  | user u hkey hbytes live => exact absurd hkey.symm (userKey_ne_pageKey u.id g r)
  | page q hkey hbytes =>
    obtain ⟨hgeneration, hrequest⟩ := pageKey_inj.1 hkey
    rw [hbytes] at hb
    rw [eq_of_decodeBundle? hb, hgeneration, hrequest]
    exact hpresent q

/-- After a run every page that is held was taken at some moment of the run, in the generation of that
moment. -/
theorem Dated.after (hknown : may s.tiers.far ∧ s.behind.store.table.Sound)
    (hd : Dated held past s.tiers) (requests : List (Request α))
    (hpast : ∀ before since, requests = before ++ since → ∀ r,
      past (Program.after (fronted cache).answer before s).generation.current r
        ((Program.after (fronted cache).answer before s).page r)) :
    Dated held past (Program.after (fronted cache).answer requests s).tiers := by
  induction requests generalizing s with
  | nil => exact hd
  | cons q requests ih =>
    have hnext : Dated held past ((fronted cache).answer q s).2.tiers := by
      cases q with
      | operation op => exact hd.step h hknown.1 hknown.2 (hpast [] _ rfl) op
      | transaction body => exact hd
    refine ih (known_answer h.toTracked hknown q) hnext ?_
    intro before since heq r
    exact hpast (q :: before) since (by rw [heq, List.cons_append]) r

/-- A listing is answered with a page that was taken in the present generation. -/
theorem Dated.listing (hfar : may s.tiers.far) (hd : Dated held past s.tiers) {r : PageRequest}
    (hpresent : past s.generation.current r (s.page r)) :
    ∃ p, ((fronted cache).run (.list r) s).1 = .ok p ∧ past s.generation.current r p := by
  rw [cached_list, base_list]
  cases hg : (cache.get (pageKey s.generation.current r) s.tiers).1.bind fun bytes =>
      (decodeBundle? bytes).map (·.page r) with
  | none => exact ⟨_, rfl, hpresent⟩
  | some p =>
    obtain ⟨bytes, hbytes, hd'⟩ := Option.bind_eq_some_iff.1 hg
    obtain ⟨b, hb, rfl⟩ := Option.map_eq_some_iff.1 hd'
    exact ⟨b.page r, rfl, hd.taken (h.of_answer hfar hbytes) hb⟩

end Dated

end Roster.Service
