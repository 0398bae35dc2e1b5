import Roster.Proofs.Json.Values
import Roster.Proofs.Page.Basic
import Roster.Proofs.Page.Requested
import Mathlib.Data.List.Forall2

/-!
# Requests and pages are read back

What is written of a request or a page is read as the same request or page.

* `PageRequest.reads_json` is about requests and `Page.reader_json` about pages, whose details stand
  beside the content.
* `Page.reader_of_item_error` says that a page fails with the first of its items: the items stand two
  levels deep, and fewer levels are left for them than for a text of their own.
* `requests_and_pages_read_back` puts together what is read as a request, which numbers a request has,
  and what is read back.
-/

namespace Roster

open Roster.Json Roster.Number

/-! ### Requests -/

theorem PageRequest.reads_json (r : PageRequest) : Reads PageRequest.reader 1 r.json r := by
  let d : Draft := ⟨some r.page, some r.size⟩
  have hfinish : record.finish d = .ok r := congrArg Except.ok (of_parts r)
  refine Record.reads_object (s := d) (fun depth hdepth => ?_) hfinish
  exact Record.steps_cons hdepth rfl rfl (reads_natural r.page_le _) <|
    Record.steps_cons hdepth rfl rfl
      (reads_natural (Nat.le_trans r.size_le (by decide)) _) <|
    Steps.nil _

/-! ### Details of pages -/

namespace PageInfo

/-- Details whose numbers have no more than 64 bits. -/
structure Fits (i : PageInfo) : Prop where
  page : i.page ≤ wordMax
  size : i.size ≤ wordMax
  totalElements : i.totalElements ≤ wordMax
  totalPages : i.totalPages ≤ wordMax
  numberOfElements : i.numberOfElements ≤ wordMax

/-- The entries of the details as values. -/
def values (i : PageInfo) : List (String × Value) :=
  [("page", .number (.natural i.page)), ("size", .number (.natural i.size)),
    ("total_elements", .number (.natural i.totalElements)),
    ("total_pages", .number (.natural i.totalPages)),
    ("first", .bool i.isFirst), ("last", .bool i.isLast),
    ("number_of_elements", .number (.natural i.numberOfElements))]

theorem naturalIn_natural {n : Nat} (h : n ≤ wordMax) (expected : String) :
    naturalIn expected (.number (.natural n)) = .ok n := if_pos h

theorem ofEntries_values {i : PageInfo} (h : i.Fits) : ofEntries i.values = .ok i := by
  simp only [ofEntries, values, List.foldlM_cons, List.foldlM_nil, Draft.put, fresh, truthIn,
    naturalIn_natural, h.page, h.size, h.totalElements, h.totalPages, h.numberOfElements]
  rfl

theorem fits_of {page size total count : Nat} (hpage : page ≤ wordMax) (hsize : size ≤ wordMax)
    (htotal : total ≤ wordMax) (hcount : count ≤ wordMax) : (of page size total count).Fits :=
  ⟨hpage, hsize, htotal, Nat.le_trans (pagesOf_le size total) htotal, hcount⟩

end PageInfo

/-! ### Pages -/

namespace Page

variable {α : Type}

/-- An entry beside the content, with the value that its text is read as. -/
inductive Beside : String × List Char → String × Value → Prop where
  | intro {key : String} {text : List Char} {v : Value} : key ≠ "content" →
      Reads Value.reader 0 text v → Beside (key, text) (key, v)

/-- Entries beside the content are kept as values, the latest first. -/
theorem steps_beside (read : Reader α) (depth : Nat) {es : List (String × List Char)}
    {vs : List (String × Value)} (h : List.Forall₂ Beside es vs) (content : Option (List α))
    (others : List (String × Value)) :
    Steps (entry read depth) es ⟨content, others⟩ ⟨content, vs.reverse ++ others⟩ := by
  induction h generalizing others with
  | nil => exact .nil _
  | cons hbeside _ ih =>
    cases hbeside with
    | intro hkey hreads =>
      rw [List.reverse_cons, List.append_assoc]
      refine .cons (if_neg (by simpa using hkey)) (fun rest hrest => ?_) (ih _)
      rw [bind_of_ok (hreads depth (Nat.zero_le depth) rest hrest)]
      rfl

theorem beside_entries {i : PageInfo} (h : i.Fits) : List.Forall₂ Beside i.entries i.values :=
  .cons (.intro (by decide) (reads_number h.page)) <|
  .cons (.intro (by decide) (reads_number h.size)) <|
  .cons (.intro (by decide) (reads_number h.totalElements)) <|
  .cons (.intro (by decide) (reads_number h.totalPages)) <|
  .cons (.intro (by decide) (reads_truth i.isFirst)) <|
  .cons (.intro (by decide) (reads_truth i.isLast)) <|
  .cons (.intro (by decide) (reads_number h.numberOfElements)) .nil

/-- A page is read back if its items are, two levels deeper. -/
theorem reader_json {c : Coding α} {p : Page α} {depth : Nat}
    (hitems : ∀ a ∈ p.content, c.read depth (c.print a) = .ok (a, [])) (hinfo : p.info.Fits)
    (rest : List Char) :
    reader c.read (depth + 2) (p.json c.print ++ rest) = .ok (p, rest) := by
  have hcontent : ∀ rest, EndsValue rest →
      list c.read (depth + 1) (Print.list (p.content.map c.print) ++ rest) =
        .ok (p.content, rest) := fun rest _ =>
    list_printed (fun a _ => c.opens a) (fun a ha _ hr => c.follows (hitems a ha) hr) rest
  have hsteps : Steps (entry c.read (depth + 1))
      (("content", Print.list (p.content.map c.print)) :: p.info.entries) ⟨none, []⟩
      ⟨some p.content, p.info.values.reverse⟩ := by
    have hothers := steps_beside c.read (depth + 1) (beside_entries hinfo) (some p.content) []
    rw [List.append_nil] at hothers
    refine .cons rfl (fun rest hrest => ?_) hothers
    rw [bind_of_ok (hcontent rest hrest)]
    rfl
  have hentries : entries (entry c.read (depth + 1)) ⟨none, []⟩
      (Print.commaSeparated ((("content", Print.list (p.content.map c.print)) ::
        p.info.entries).map Print.entry) ++ (['}'] ++ rest)) =
          .ok (⟨some p.content, p.info.values.reverse⟩, rest) := entries_printed hsteps rest
  have hvalues : PageInfo.ofEntries p.info.values.reverse.reverse = .ok p.info := by
    rw [List.reverse_reverse]
    exact PageInfo.ofEntries_values hinfo
  simp only [json, Print.object]
  rw [List.cons_append, List.cons_append, List.append_assoc]
  show (entries (entry c.read (depth + 1)) ⟨none, []⟩ >>= _ : Scan (Page α)) _ = _
  rw [bind_of_ok hentries]
  refine (bind_of_ok (lift_eq_ok.2 ⟨rfl, rfl⟩) _).trans ?_
  exact bind_of_ok (lift_eq_ok.2 ⟨hvalues, rfl⟩) _

/-- A page whose first item cannot be read cannot be read either. -/
theorem reader_of_item_error {read : Reader α} {print : α → List Char} {a : α} {items : List α}
    {info : PageInfo} {depth : Nat} {e : Error} (hopens : Opens (print a))
    (hitem : ∀ rest, read depth (print a ++ rest) = .error e) (rest : List Char) :
    reader read (depth + 2) ((Page.mk (a :: items) info).json print ++ rest) = .error e := by
  have hcontent : ∀ rest,
      list read (depth + 1) (Print.list ((a :: items).map print) ++ rest) = .error e := by
    intro rest
    rw [List.map_cons, Print.list, commaSeparated_cons, List.cons_append, List.cons_append,
      List.append_assoc, List.append_assoc]
    show (nextElement true >>= _ : Scan (List α)) _ = _
    rw [bind_of_ok (nextElement_first hopens _), if_pos rfl]
    exact bind_of_error (hitem _) _
  have hentries : entries (entry read (depth + 1)) ⟨none, []⟩
      (Print.commaSeparated ((("content", Print.list ((a :: items).map print)) ::
        info.entries).map Print.entry) ++ (['}'] ++ rest)) = .error e :=
    entries_fail_first rfl (fun rest => bind_of_error (hcontent rest) _) _
  simp only [json, Print.object]
  rw [List.cons_append, List.cons_append, List.append_assoc]
  exact bind_of_error hentries _

end Page

/-! ### What is read and what is read back -/

/-- **Requests and pages are read back.**  A text is read as a request just if it asks for a page and a
size, an object by its keys and a list by its places, and then as the request that is made of the two
numbers: a page of zero is the first page, a size of zero is the usual size, and larger sizes than the
greatest are reduced to it. So every request has a page from 1 and a size from 1 to 100; making a request
of its numbers and reading what is written of it give the request again, and its offset stays within 64
bits. A page is written as one object with the details beside the content, and is read back if its items
are read back two levels deeper than a text of their own. -/
theorem requests_and_pages_read_back {α : Type} (c : Coding α) :
    (∀ text r, PageRequest.reader.run text = .ok r ↔
      ∃ page size, PageRequest.Asks text page size ∧ r = .of page size) ∧
    (∀ page size, page ≤ wordMax → size ≤ wordMax →
      (PageRequest.of page size).page = max 1 page ∧
      (PageRequest.of page size).size = min (if size = 0 then 20 else size) 100) ∧
    (∀ r : PageRequest, 1 ≤ r.page ∧ 1 ≤ r.size ∧ r.size ≤ 100 ∧ .of r.page r.size = r ∧
      PageRequest.reader.run (String.ofList r.json) = .ok r ∧
      r.offset = min ((r.page - 1) * r.size) wordMax) ∧
    ∀ (content : List α) (page size total : Nat), content.length ≤ wordMax → page ≤ wordMax →
      size ≤ wordMax → total ≤ wordMax →
      (∀ a ∈ content, c.read (deepest - 2) (c.print a) = .ok (a, [])) →
      (Page.of content page size total).json c.print =
        Print.object [("content", Print.list (content.map c.print)),
          ("page", Print.natural page), ("size", Print.natural size),
          ("total_elements", Print.natural total),
          ("total_pages", Print.natural (PageInfo.pagesOf size total)),
          ("first", Print.truth (page ≤ 1)),
          ("last", Print.truth (PageInfo.pagesOf size total ≤ page)),
          ("number_of_elements", Print.natural content.length)] ∧
      (Page.reader c.read).run (String.ofList ((Page.of content page size total).json c.print)) =
        .ok (Page.of content page size total) := by
  refine ⟨fun _ _ => PageRequest.run_eq_ok, fun page size hpage _ => ?_, fun r => ?_,
    fun content page size total hcount hpage hsize htotal hitems => ?_⟩
  · exact ⟨PageRequest.page_of_word hpage size, rfl⟩
  · exact ⟨r.one_le_page, r.one_le_size, r.size_le, r.of_parts, (r.reads_json.mono (by decide)).run,
      rfl⟩
  · have hinfo := PageInfo.fits_of hpage hsize htotal hcount
    have hread := Page.reader_json (p := Page.of content page size total) hitems hinfo []
    rw [List.append_nil] at hread
    refine ⟨rfl, Reader.run_eq_ok.2 ⟨[], ?_, rfl⟩⟩
    rw [String.toList_ofList]
    exact hread

/-- A text that asks for a page with an entry of another key first, and the page of two numbers. -/
theorem requests_and_pages_read_back_in_trial :
    (∃ page size, PageRequest.Asks
        "\x7b\"sort\":[\x7b\x7d, null], \"size\":5000, \"p\\u0061ge\":3\x7d " page size ∧
      PageRequest.of 3 5000 = .of page size) ∧
    (PageRequest.of 3 5000).page = 3 ∧ (PageRequest.of 3 5000).size = 100 ∧
    (PageRequest.of wordMax 100).offset = wordMax ∧
    (∀ a ∈ [7, wordMax], Coding.natural.read 125 (Coding.natural.print a) = .ok (a, [])) ∧
    (Page.reader Coding.natural.read).run
        (String.ofList ((Page.of [7, wordMax] 2 3 5).json Coding.natural.print)) =
      .ok (Page.of [7, wordMax] 2 3 5) := by
  obtain ⟨hasks, hof, hrequest, hpage⟩ := requests_and_pages_read_back Coding.natural
  have hthree := hof 3 5000 (by decide) (by decide)
  have hlast := hrequest (.of wordMax 100)
  have hlarge : min ((wordMax - 1) * 100) wordMax = wordMax := by decide
  have hitems : ∀ a ∈ [7, wordMax], Coding.natural.read 125 (Coding.natural.print a) = .ok (a, []) := by
    intro a ha
    have hle : a ≤ wordMax := by
      rcases List.mem_pair.1 ha with rfl | rfl <;> decide
    have hread := reads_natural hle "u64" 125 (Nat.zero_le _) [] endsValue_nil
    rwa [List.append_nil] at hread
  exact ⟨(hasks _ _).1 (eq_ok_of_toOption (by decide +kernel)), hthree.1, hthree.2,
    hlast.2.2.2.2.2.trans hlarge, hitems,
    (hpage [7, wordMax] 2 3 5 (by decide) (by decide) (by decide) (by decide) hitems).2⟩

/-- An item that is read back from a text of its own but not from a page, where it stands deeper. -/
theorem deep_item_lost_on_page :
    Value.reader.run (String.ofList (Value.nestedLists 126).print) = .ok (Value.nestedLists 126) ∧
    (Page.reader Value.reader).run
        (String.ofList ((Page.of [Value.nestedLists 126] 1 20 1).json Value.print)) =
      .error .tooDeep := by
  refine ⟨((Value.reads_nestedLists 126).mono (by decide)).run, ?_⟩
  have hpage : Page.reader Value.reader (125 + 2)
      ((Page.of [Value.nestedLists 126] 1 20 1).json Value.print ++ []) = .error .tooDeep :=
    Page.reader_of_item_error (Value.opens_nestedLists 126)
      (Value.reader_nestedLists_of_lt (by decide)) []
  rw [List.append_nil] at hpage
  simp only [Reader.run]
  rw [String.toList_ofList]
  exact congrArg (· >>= _) hpage

end Roster
