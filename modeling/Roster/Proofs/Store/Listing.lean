import Roster.Proofs.Store.Rows

/-!
# The order of a listing

The live users of a table are listed by the moment of their creation, the latest first, and users of the
same moment by their ids, the greatest first. Ids differ, so there is only one such order, whichever
order the rows were in.

* `Precedes` is the order. `Table.listedBefore_iff` says that it is the one that is sorted by.
* `Table.pairwise_listing` says that a listing is in order, and `Table.listing_eq_of_perm` that it does
  not depend on the order of the rows. Both need that ids differ, as they do in a sound table
  (`Table.Sound.nodup_live_ids`).
-/

namespace Roster.Time.Timestamp

theorem before_iff {a b : Timestamp} : a.before b = true ↔
    a.seconds < b.seconds ∨ a.seconds = b.seconds ∧ a.nanos < b.nanos := by
  simp [before]

theorem eq_iff {a b : Timestamp} : a = b ↔ a.seconds = b.seconds ∧ a.nanos = b.nanos := by
  obtain ⟨seconds, nanos, _, _, _, _⟩ := a
  obtain ⟨seconds', nanos', _, _, _, _⟩ := b
  simp

end Roster.Time.Timestamp

namespace Roster.Store

open Roster.Time

/-- A user comes before another in a listing: created later, or at the same moment with a greater id. -/
def Precedes (u v : User) : Prop :=
  v.createdAt.before u.createdAt = true ∨ u.createdAt = v.createdAt ∧ v.id.value < u.id.value

theorem precedes_iff {u v : User} : Precedes u v ↔
    v.createdAt.seconds < u.createdAt.seconds ∨ v.createdAt.seconds = u.createdAt.seconds ∧
      (v.createdAt.nanos < u.createdAt.nanos ∨ v.createdAt.nanos = u.createdAt.nanos ∧
        v.id.value < u.id.value) := by
  simp only [Precedes, Timestamp.before_iff, Timestamp.eq_iff]
  omega

/-- Of two users at most one precedes the other. -/
theorem Precedes.asymm {u v : User} (h : Precedes u v) : ¬ Precedes v u := by
  rw [precedes_iff] at h ⊢
  omega

namespace Table

/-! ### The order that is sorted by -/

/-- Users may stand next to each other in the order of the listing, or have the same moment and id. -/
theorem listedBefore_iff {u v : User} : listedBefore u v = true ↔
    Precedes u v ∨ u.createdAt = v.createdAt ∧ u.id = v.id := by
  have hid : u.id = v.id ↔ u.id.value = v.id.value := by
    obtain ⟨n, _⟩ := u.id
    obtain ⟨m, _⟩ := v.id
    simp
  simp only [listedBefore, Bool.or_eq_true, Bool.and_eq_true, beq_iff_eq, decide_eq_true_eq,
    precedes_iff, hid, Timestamp.before_iff, Timestamp.eq_iff]
  omega

theorem listedBefore_trans (u v w : User) (huv : listedBefore u v = true)
    (hvw : listedBefore v w = true) : listedBefore u w = true := by
  simp only [listedBefore, Bool.or_eq_true, Bool.and_eq_true, beq_iff_eq, decide_eq_true_eq,
    Timestamp.before_iff, Timestamp.eq_iff] at huv hvw ⊢
  omega

theorem listedBefore_total (u v : User) : (listedBefore u v || listedBefore v u) = true := by
  simp only [listedBefore, Bool.or_eq_true, Bool.and_eq_true, beq_iff_eq, decide_eq_true_eq,
    Timestamp.before_iff, Timestamp.eq_iff]
  omega

/-! ### The listing -/

theorem listing_perm (t : Table) : t.listing.Perm t.live := List.mergeSort_perm _ _

theorem mem_listing {t : Table} {u : User} : u ∈ t.listing ↔ u ∈ t.live := t.listing_perm.mem_iff

/-- The listing has as many users as there are live rows. -/
theorem length_listing (t : Table) :
    t.listing.length = t.countP fun row => row.2.isLive := by
  rw [t.listing_perm.length_eq]
  simp only [live]
  rw [← List.countP_eq_length_filter, List.countP_map]
  rfl

/-- No two live users of a sound table have one id. -/
theorem Sound.nodup_live_ids {t : Table} (h : t.Sound) : (t.live.map User.id).Nodup := by
  have hkeys : (t.map (·.2)).map User.id = Keyed.keys t := by
    simp only [Keyed.keys, List.map_map]
    refine List.map_congr_left fun row hrow => ?_
    exact h.id_eq ((Keyed.get?_eq_some_iff h.nodup).2 hrow)
  have hsub : (t.live.map User.id).Sublist (Keyed.keys t) := by
    rw [← hkeys]
    exact List.filter_sublist.map User.id
  exact List.Nodup.sublist hsub h.nodup

/-- Every user in a listing precedes all that follow, provided that ids differ. -/
theorem pairwise_listing {t : Table} (h : (t.live.map User.id).Nodup) :
    t.listing.Pairwise Precedes := by
  have hsorted : t.listing.Pairwise fun u v => listedBefore u v = true :=
    List.pairwise_mergeSort listedBefore_trans listedBefore_total t.live
  have hids : (t.listing.map User.id).Nodup := (t.listing_perm.map User.id).nodup_iff.2 h
  have hdistinct : t.listing.Pairwise fun u v => u.id ≠ v.id := List.pairwise_map.1 hids
  refine (hsorted.and hdistinct).imp ?_
  rintro u v ⟨hbefore, hne⟩
  rcases listedBefore_iff.1 hbefore with hprecedes | ⟨-, heq⟩
  · exact hprecedes
  · exact absurd heq hne

/-- The listing does not depend on the order of the rows, provided that ids differ. -/
theorem listing_eq_of_perm {t t' : Table} (h : (t.live.map User.id).Nodup) (hperm : t'.Perm t) :
    t'.listing = t.listing := by
  have hlive : t'.live.Perm t.live := (hperm.map _).filter _
  have hlisting : t'.listing.Perm t.listing :=
    t'.listing_perm.trans (hlive.trans t.listing_perm.symm)
  have h' : (t'.live.map User.id).Nodup := (hlive.map User.id).nodup_iff.2 h
  refine List.Perm.eq_of_pairwise ?_ (pairwise_listing h') (pairwise_listing h) hlisting
  intro u v _ _ huv hvu
  exact absurd hvu huv.asymm

end Table

end Roster.Store
