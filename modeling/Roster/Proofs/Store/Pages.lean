import Roster.Proofs.Page.Basic
import Roster.Proofs.Store.Invariant
import Roster.Proofs.Store.Listing

/-!
# Pages divide the live users

The pages of one size, one after another, are the listing of all live users: nobody is left out at the
border of two pages, and nobody comes twice. Pages after the last are empty, also those so far out that
64 bits cannot count the users before them.

* `PageRequest.drop_offset` says where a page starts.
* `Table.allPages_eq_listing` puts the pages together, and `Table.content_page_eq_nil_iff` says which
  pages are empty.
* `Table.Serves` says what is right about a page. `Session.pages_divide_live` is about every table that
  can be reached.
-/

namespace Roster

open Roster.Number

/-! ### Where pages start -/

namespace PageRequest

/-- A page starts after all earlier pages. It makes no difference that the number of users before it is
cut to 64 bits, because nothing can be listed after so many. -/
theorem drop_offset {α : Type} {xs : List α} (h : xs.length ≤ wordMax) (r : PageRequest) :
    xs.drop r.offset = xs.drop ((r.page - 1) * r.size) := by
  simp only [offset]
  rcases Nat.le_total ((r.page - 1) * r.size) wordMax with hle | hge
  · rw [saturated_of_le hle]
  · have hsaturated : saturated ((r.page - 1) * r.size) = wordMax := Nat.min_eq_right hge
    rw [hsaturated, List.drop_eq_nil_of_le h, List.drop_eq_nil_of_le (Nat.le_trans h hge)]

end PageRequest

/-- The first pieces of one length that a list is cut into, one after another. -/
theorem flatten_take_drop {α : Type} (xs : List α) (size n : Nat) :
    ((List.range n).map fun i => (xs.drop (i * size)).take size).flatten = xs.take (n * size) := by
  induction n with
  | zero => rw [Nat.zero_mul, List.take_zero, List.range_zero, List.map_nil, List.flatten_nil]
  | succ n ih =>
    rw [List.range_succ, List.map_append, List.flatten_append, ih, Nat.succ_mul, List.take_add,
      List.map_singleton, List.flatten_singleton]

namespace Store

/-! ### Pages of a table -/

namespace Table

theorem content_page {t : Table} (h : t.listing.length ≤ wordMax) (r : PageRequest) :
    (t.page r).content = (t.listing.drop ((r.page - 1) * r.size)).take r.size := by
  show (t.listing.drop r.offset).take r.size = _
  rw [PageRequest.drop_offset h]

/-- The pages without users are those after the last one. -/
theorem content_page_eq_nil_iff {t : Table} (h : t.listing.length ≤ wordMax) (r : PageRequest) :
    (t.page r).content = [] ↔ (t.page r).info.totalPages < r.page := by
  have hcount : (t.page r).info.totalPages ≤ r.page - 1 ↔ t.listing.length ≤ (r.page - 1) * r.size :=
    PageInfo.pagesOf_le_iff r.one_le_size _ _
  have hpage := r.one_le_page
  have hsize := r.one_le_size
  rw [content_page h, List.take_eq_nil_iff, List.drop_eq_nil_iff, ← hcount]
  omega

/-- All pages of one size, one after another. -/
def allPages (t : Table) (size : Nat) : List User :=
  ((List.range (t.page (.of 1 size)).info.totalPages).map fun i =>
    (t.page (.of (i + 1) size)).content).flatten

/-- All pages together are the listing. -/
theorem allPages_eq_listing {t : Table} (h : t.listing.length ≤ wordMax) {size : Nat}
    (hsize : 1 ≤ size) (hle : size ≤ greatestPageSize) : t.allPages size = t.listing := by
  obtain ⟨n, hn⟩ : ∃ n, n = PageInfo.pagesOf size t.listing.length := ⟨_, rfl⟩
  have htotal : (t.page (.of 1 size)).info.totalPages = n := by
    show PageInfo.pagesOf (PageRequest.of 1 size).size t.listing.length = n
    rw [PageRequest.size_of hsize hle, hn]
  have hroom : t.listing.length ≤ n * size := (PageInfo.pagesOf_le_iff hsize _ n).1 (Nat.le_of_eq hn.symm)
  -- No more pages than users, so that all of them can be asked for.
  have hfew : n ≤ t.listing.length := by
    rw [hn, PageInfo.pagesOf_le_iff hsize]
    exact Nat.le_mul_of_pos_right _ hsize
  have hcontent : ∀ i ∈ List.range n, (t.page (.of (i + 1) size)).content =
      (t.listing.drop (i * size)).take size := by
    intro i hi
    have hlt : i < n := List.mem_range.1 hi
    rw [content_page h, PageRequest.page_of (by omega) (by omega), PageRequest.size_of hsize hle,
      Nat.add_sub_cancel]
  simp only [allPages]
  rw [htotal, List.map_congr_left hcontent, flatten_take_drop, List.take_of_length_le hroom]

/-- A page is the right answer to a request: its details tell what it holds and where it lies, it is
empty if it lies after the last page, and it is the same for every order of the rows. -/
structure Serves (t : Table) (r : PageRequest) (p : Page User) : Prop where
  page_eq : p.info.page = r.page
  size_eq : p.info.size = r.size
  total_eq : p.info.totalElements = t.countP fun row => row.2.isLive
  totalPages_le_iff (n : Nat) : p.info.totalPages ≤ n ↔ p.info.totalElements ≤ n * r.size
  count_eq : p.info.numberOfElements = p.content.length
  count_le : p.info.numberOfElements ≤ r.size
  isFirst_iff : p.info.isFirst = true ↔ r.page = 1
  isLast_iff : p.info.isLast = true ↔ ∀ later : PageRequest, later.size = r.size →
    r.page < later.page → (t.page later).content = []
  beyond : p.info.totalPages < r.page → p.content = []
  any_order {t' : Table} : t'.Perm t → t'.page r = p

/-- Every page of a table is right, provided that ids differ and that 64 bits can count the users. -/
theorem serves_page {t : Table} (hids : (t.live.map User.id).Nodup)
    (h : t.listing.length ≤ wordMax) (r : PageRequest) : t.Serves r (t.page r) := by
  have hcount : ∀ n, PageInfo.pagesOf r.size t.listing.length ≤ n ↔ t.listing.length ≤ n * r.size :=
    PageInfo.pagesOf_le_iff r.one_le_size _
  have hpage := r.one_le_page
  refine ⟨rfl, rfl, t.length_listing, hcount, rfl, List.length_take_le _ _, ?_, ?_,
    (content_page_eq_nil_iff h r).2, ?_⟩
  · show decide (r.page ≤ 1) = true ↔ r.page = 1
    rw [decide_eq_true_iff]
    omega
  · show decide (PageInfo.pagesOf r.size t.listing.length ≤ r.page) = true ↔ _
    rw [decide_eq_true_iff]
    constructor
    · intro hlast later hsize hlater
      rw [content_page_eq_nil_iff h]
      show PageInfo.pagesOf later.size t.listing.length < later.page
      rw [hsize]
      omega
    · intro hempty
      refine Nat.le_of_not_lt fun hlt => ?_
      -- Otherwise the next page can be asked for and is not empty.
      have hfew : PageInfo.pagesOf r.size t.listing.length ≤ t.listing.length :=
        (hcount _).2 (Nat.le_mul_of_pos_right _ r.one_le_size)
      have hnext : (PageRequest.of (r.page + 1) r.size).page = r.page + 1 :=
        PageRequest.page_of (by omega) (by omega)
      have hsize : (PageRequest.of (r.page + 1) r.size).size = r.size :=
        PageRequest.size_of r.one_le_size r.size_le
      have hnil := (content_page_eq_nil_iff h _).1
        (hempty (.of (r.page + 1) r.size) hsize (by rw [hnext]; exact Nat.lt_succ_self _))
      have hbeyond : PageInfo.pagesOf (PageRequest.of (r.page + 1) r.size).size t.listing.length <
          (PageRequest.of (r.page + 1) r.size).page := hnil
      rw [hsize, hnext] at hbeyond
      omega
  · intro t' hperm
    simp only [page]
    rw [listing_eq_of_perm hids hperm]

end Table

/-! ### Tables that can be reached -/

namespace Session

/-- A table is the shared one or the copy of a unit of work. -/
def Has (s : Session) (t : Table) : Prop :=
  s.repository.table = t ∨ ∃ n, (s.unit n).staged = some t

/-- **Pages divide the live users.**  Take any table that an interleaving reaches from an empty
repository, with no more live users than 64 bits can count. For every size the pages one after another
hold every live user and nobody else, each one once and in the order of the listing; and every page is
right about itself, empty beyond the last, and the same for every order of the rows. -/
theorem pages_divide_live {events : List Event} {t : Table}
    (ht : (run events (ofRepository .empty)).Has t)
    (hcount : (t.countP fun row => row.2.isLive) ≤ wordMax) :
    (∀ size, 1 ≤ size → size ≤ greatestPageSize →
      (t.allPages size).Pairwise Precedes ∧
        ∀ u, u ∈ t.allPages size ↔ Keyed.get? t u.id = some u ∧ u.isDeleted = false) ∧
    ∀ r, t.Serves r (t.page r) := by
  have hsafe := (safe_empty.after events).sound
  have hsound : t.Sound := by
    rcases ht with rfl | ⟨n, hn⟩
    · exact hsafe.1
    · exact hsafe.2 n t hn
  have hlength : t.listing.length ≤ wordMax := by
    rw [t.length_listing]
    exact hcount
  refine ⟨fun size hsize hle => ?_, fun r => Table.serves_page hsound.nodup_live_ids hlength r⟩
  rw [Table.allPages_eq_listing hlength hsize hle]
  refine ⟨Table.pairwise_listing hsound.nodup_live_ids, fun u => ?_⟩
  have hlive : u.isLive = true ↔ u.isDeleted = false := by
    simp only [User.isLive, User.isDeleted]
    cases u.deletedAt <;> simp
  rw [Table.mem_listing, hsound.mem_live_iff, hlive]

/-- A user for a trial. -/
def firstUser : User :=
  .create (.inSeries 1) "Ann" ⟨"ann@x.com", by decide +kernel, by decide +kernel⟩
    ⟨1, 5, by decide, by decide, by decide, by decide⟩

/-- A user created at the same moment. -/
def secondUser : User :=
  .create (.inSeries 2) "Bob" ⟨"bob@x.com", by decide +kernel, by decide +kernel⟩ firstUser.createdAt

/-- A user created one nanosecond before. -/
def thirdUser : User :=
  .create (.inSeries 3) "Cleo" ⟨"cleo@x.com", by decide +kernel, by decide +kernel⟩
    ⟨1, 4, by decide, by decide, by decide, by decide⟩

/-- The users are saved, and one of them is deleted in a unit of work that is not finished. -/
def trialEvents : List Event :=
  [.direct (.save firstUser), .direct (.save thirdUser), .direct (.save secondUser), .begin,
    .staged 0 (.delete thirdUser.id firstUser.createdAt)]

/-- The copy of that unit. -/
def trialCopy : Table :=
  Keyed.put [(secondUser.id, secondUser), (thirdUser.id, thirdUser), (firstUser.id, firstUser)]
    thirdUser.id (thirdUser.markDeleted firstUser.createdAt)

theorem pages_divide_live_in_trial :
    (run trialEvents (ofRepository .empty)).Has trialCopy ∧
      (trialCopy.countP fun row => row.2.isLive) ≤ wordMax ∧
      (trialCopy.allPages 1).Pairwise Precedes ∧
      (∀ u, u ∈ trialCopy.allPages 1 ↔ Keyed.get? trialCopy u.id = some u ∧ u.isDeleted = false) ∧
      trialCopy.Serves (.of 3 1) (trialCopy.page (.of 3 1)) := by
  have hhas : (run trialEvents (ofRepository .empty)).Has trialCopy := Or.inr ⟨0, by decide +kernel⟩
  have hcount : (trialCopy.countP fun row => row.2.isLive) ≤ wordMax := by decide +kernel
  obtain ⟨hall, hserves⟩ := pages_divide_live hhas hcount
  obtain ⟨hordered, hmem⟩ := hall 1 (by decide) (by decide)
  exact ⟨hhas, hcount, hordered, hmem, hserves (.of 3 1)⟩

end Session

end Store

end Roster
