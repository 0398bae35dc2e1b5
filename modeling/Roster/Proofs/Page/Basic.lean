import Roster.Page

/-!
# Requests for pages and details of pages

A request is determined by its page and its size, and making a request of the numbers of a request
gives the request back.

* `page_of_word` says what becomes of a page that is asked for, and `of_parts` what becomes of the
  numbers of a request.
* `PageInfo.pagesOf_le_iff` says how many pages there are.
-/

namespace Roster

open Roster.Number

/-! ### Requests -/

namespace PageRequest

theorem eq_of_parts {p q : PageRequest} (hpage : p.page = q.page) (hsize : p.size = q.size) :
    p = q := by
  cases p
  cases q
  cases hpage
  cases hsize
  rfl

/-- The page of a request is the number that is asked for, or the first page in place of none. -/
theorem page_of_word {page : Nat} (h : page ≤ wordMax) (size : Nat) :
    (of page size).page = max 1 page := by
  simp only [of]
  rw [saturated_of_le h]

theorem page_of {page size : Nat} (h : 1 ≤ page) (hle : page ≤ wordMax) :
    (of page size).page = page := by
  rw [page_of_word hle]
  exact Nat.max_eq_right h

theorem size_of {page size : Nat} (h : 1 ≤ size) (hle : size ≤ greatestPageSize) :
    (of page size).size = size := by
  simp only [of]
  rw [if_neg (by omega)]
  exact Nat.min_eq_left hle

theorem of_parts (r : PageRequest) : of r.page r.size = r :=
  eq_of_parts (page_of r.one_le_page r.page_le) (size_of r.one_le_size r.size_le)

end PageRequest

/-! ### Details -/

/-- The number of pages is the least that has room for all elements. -/
theorem PageInfo.pagesOf_le_iff {size : Nat} (h : 1 ≤ size) (total n : Nat) :
    PageInfo.pagesOf size total ≤ n ↔ total ≤ n * size := by
  have hcommute : size * n = n * size := Nat.mul_comm size n
  simp only [PageInfo.pagesOf]
  rw [if_neg (by omega), Nat.div_le_iff_le_mul_add_pred (by omega)]
  omega

/-- There are no more pages than elements. -/
theorem PageInfo.pagesOf_le (size total : Nat) : PageInfo.pagesOf size total ≤ total := by
  rcases Nat.eq_zero_or_pos size with rfl | hsize
  · exact Nat.zero_le total
  · exact (PageInfo.pagesOf_le_iff hsize total total).2 (Nat.le_mul_of_pos_right total hsize)

end Roster
