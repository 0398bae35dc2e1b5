import Roster.Json.Printer
import Roster.Json.Record
import Roster.Number.Word

/-!
# Pages of a listing

A listing is given out in pages. A request names a page from 1 and a size from 1 to 100; a page holds
its content and says where it lies in the listing.

* `PageRequest.of` makes a request from any two numbers: a size of zero means the usual size, and
  numbers outside their range are moved to its nearest end.
* `PageInfo.of` counts the pages and says whether a page is the first or the last.
* `Page.json` writes a page with its details beside the content, and `Page.reader` reads it.
-/

namespace Roster

open Roster.Json Roster.Number

/-! ### Requests -/

/-- The number of elements on a page for which no size is asked. -/
def usualPageSize : Nat := 20

/-- The greatest number of elements on a page. -/
def greatestPageSize : Nat := 100

/-- A request for one page. -/
structure PageRequest where
  page : Nat
  size : Nat
  one_le_page : 1 ≤ page
  page_le : page ≤ wordMax
  one_le_size : 1 ≤ size
  size_le : size ≤ greatestPageSize
  deriving DecidableEq, Repr

namespace PageRequest

/-- The request for a page and a size, moved into their ranges. -/
def of (page size : Nat) : PageRequest where
  page := max 1 (saturated page)
  size := min (if size = 0 then usualPageSize else size) greatestPageSize
  one_le_page := Nat.le_max_left _ _
  page_le := Nat.max_le.2 ⟨by decide, saturated_le page⟩
  one_le_size := by
    unfold usualPageSize greatestPageSize
    split <;> omega
  size_le := Nat.min_le_right _ _

/-- The request for the first page in the usual size. -/
def first : PageRequest := of 1 usualPageSize

/-- How many elements of the listing come before the page, as far as 64 bits can count. -/
def offset (r : PageRequest) : Nat := saturated ((r.page - 1) * r.size)

/-- The request as JSON text. -/
def json (r : PageRequest) : List Char :=
  Print.object [("page", Print.natural r.page), ("size", Print.natural r.size)]

/-- The numbers of a request as far as they have been read. -/
structure Draft where
  page : Option Nat := none
  size : Option Nat := none

/-- How a request is read; a number that is not given counts as zero. -/
def record : Record Draft PageRequest where
  title := "struct RawPageRequest"
  fields := [
    .of "page" (natural wordMax "usize") Draft.page ({ · with page := some · }) (some 0),
    .of "size" (natural wordMax "usize") Draft.size ({ · with size := some · }) (some 0)]
  blank := {}
  finish draft := .ok (of (draft.page.getD 0) (draft.size.getD 0))

/-- Reads a request from JSON. -/
def reader : Reader PageRequest := record.reader

end PageRequest

/-! ### Where a page lies -/

/-- Where a page lies in its listing. -/
structure PageInfo where
  page : Nat
  size : Nat
  totalElements : Nat
  totalPages : Nat
  isFirst : Bool
  isLast : Bool
  numberOfElements : Nat
  deriving DecidableEq, Repr

namespace PageInfo

/-- The number of pages of a listing: as many as its elements fill, the last one perhaps in part. -/
def pagesOf (size total : Nat) : Nat := if size = 0 then 0 else (total + size - 1) / size

/-- The details of a page that holds `count` elements of a listing of `total`. -/
def of (page size total count : Nat) : PageInfo where
  page := page
  size := size
  totalElements := total
  totalPages := pagesOf size total
  isFirst := page ≤ 1
  isLast := pagesOf size total ≤ page
  numberOfElements := count

/-- The details as entries of an object. -/
def entries (i : PageInfo) : List (String × List Char) :=
  [("page", Print.natural i.page), ("size", Print.natural i.size),
    ("total_elements", Print.natural i.totalElements),
    ("total_pages", Print.natural i.totalPages),
    ("first", Print.truth i.isFirst), ("last", Print.truth i.isLast),
    ("number_of_elements", Print.natural i.numberOfElements)]

/-- The details as far as they have been read. -/
structure Draft where
  page : Option Nat := none
  size : Option Nat := none
  totalElements : Option Nat := none
  totalPages : Option Nat := none
  isFirst : Option Bool := none
  isLast : Option Bool := none
  numberOfElements : Option Nat := none

/-- A natural number of 64 bits in a value. -/
def naturalIn (expected : String) : Value → Except Error Nat
  | .number (.natural n) =>
    if n ≤ wordMax then .ok n else .error (.wrongValue (.natural n) expected)
  | .number (.negative i) => .error (.wrongValue (.negative i) expected)
  | v => .error (.wrongType v.found expected)

/-- A truth value in a value. -/
def truthIn : Value → Except Error Bool
  | .bool b => .ok b
  | v => .error (.wrongType v.found "a boolean")

/-- The value of a field that has not been read before. -/
def fresh {β : Type} (name : String) (known : Option β) (read : Except Error β) :
    Except Error (Option β) :=
  if known.isSome then .error (.duplicateField name) else read.map some

/-- Puts an entry into the draft; entries that are no details change nothing. -/
def Draft.put (d : Draft) (e : String × Value) : Except Error Draft := do
  match e.1 with
  | "page" => return { d with page := ← fresh e.1 d.page (naturalIn "usize" e.2) }
  | "size" => return { d with size := ← fresh e.1 d.size (naturalIn "usize" e.2) }
  | "total_elements" =>
    return { d with totalElements := ← fresh e.1 d.totalElements (naturalIn "u64" e.2) }
  | "total_pages" =>
    return { d with totalPages := ← fresh e.1 d.totalPages (naturalIn "u64" e.2) }
  | "first" => return { d with isFirst := ← fresh e.1 d.isFirst (truthIn e.2) }
  | "last" => return { d with isLast := ← fresh e.1 d.isLast (truthIn e.2) }
  | "number_of_elements" =>
    return { d with numberOfElements := ← fresh e.1 d.numberOfElements (naturalIn "usize" e.2) }
  | _ => return d

/-- The details that a draft makes. -/
def Draft.finish (d : Draft) : Except Error PageInfo := do
  return {
    page := ← required "page" d.page
    size := ← required "size" d.size
    totalElements := ← required "total_elements" d.totalElements
    totalPages := ← required "total_pages" d.totalPages
    isFirst := ← required "first" d.isFirst
    isLast := ← required "last" d.isLast
    numberOfElements := ← required "number_of_elements" d.numberOfElements }

/-- The details among the entries of an object, in the order in which they were given. -/
def ofEntries (es : List (String × Value)) : Except Error PageInfo := do
  let d ← es.foldlM Draft.put {}
  d.finish

end PageInfo

/-! ### Pages -/

/-- A page of a listing. -/
structure Page (α : Type) where
  content : List α
  info : PageInfo
  deriving DecidableEq, Repr

namespace Page

variable {α : Type}

/-- The page of a listing of `total` elements that holds the content. -/
def of (content : List α) (page size total : Nat) : Page α :=
  ⟨content, .of page size total content.length⟩

/-- A page of a listing without elements. -/
def empty (page size : Nat) : Page α := of [] page size 0

/-- The page as JSON text, the details beside the content. -/
def json (print : α → List Char) (p : Page α) : List Char :=
  Print.object (("content", Print.list (p.content.map print)) :: p.info.entries)

/-- A page as far as it has been read: the content, and the other entries latest first. -/
structure Draft (α : Type) where
  content : Option (List α)
  others : List (String × Value)

/-- How the value of a key is read into a draft. -/
def entry (read : Reader α) (depth : Nat) (key : String) (d : Draft α) :
    Except Error (Scan (Draft α)) :=
  if key == "content" then
    if d.content.isSome then .error (.duplicateField key)
    else .ok do
      let items ← list read depth
      return { d with content := some items }
  else .ok do
    let v ← Value.reader depth
    return { d with others := (key, v) :: d.others }

/-- Reads the entries of a page after the opening brace. -/
def ofObject (read : Reader α) : Reader (Page α) := fun depth => do
  let d ← entries (entry read depth) ⟨none, []⟩
  let content ← required "content" d.content
  let info ← PageInfo.ofEntries d.others.reverse
  return ⟨content, info⟩

/-- Reads a page from JSON, given how its elements are read. -/
def reader (read : Reader α) : Reader (Page α) := fun depth cs =>
  match skipBlanks cs with
  | '{' :: rest => nested (ofObject read) depth rest
  | other => .error (mismatch "struct Page" other)

end Page

end Roster
