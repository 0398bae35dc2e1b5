import Roster.Page
import Roster.Proofs.Json.Members
import Roster.Proofs.Json.Naturals

/-!
# Requests in JSON texts

Which texts are requests for a page, and for which one. An object gives its numbers by their keys, in any
order and among entries of other keys with values of any shape; a list gives the page and then the size.

* `PageRequest.Asks` says which page and which size a text asks for, a number that is not given being
  zero.
* `PageRequest.run_eq_ok` says that exactly these texts are read.
-/

namespace Roster.PageRequest

open Roster.Json Roster.Number Roster.Text

/-! ### Texts that ask for a page -/

/-- The value of a key in an object: a number for the two known keys, and anything for the others. -/
inductive ValueOf (key : String) : List Char → Option Nat → List Char → Prop where
  | number {cs rest : List Char} {n : Nat} : key = "page" ∨ key = "size" → NaturalAt cs n rest →
      ValueOf key cs (some n) rest
  | other {cs rest : List Char} : key ≠ "page" → key ≠ "size" → ValueAt cs rest →
      ValueOf key cs none rest

/-- Entries give a number for a key if one of them has the key, and zero if none has. -/
def Gives (es : List (String × Option Nat)) (key : String) (n : Nat) : Prop :=
  es.filter (·.1 = key) = [(key, some n)] ∨ es.filter (·.1 = key) = [] ∧ n = 0

/-- A text that asks for a page and a size, and what is left after it. -/
inductive AsksAt : List Char → Nat → Nat → List Char → Prop where
  | object {cs ds rest : List Char} {es : List (String × Option Nat)} {page size : Nat} :
      skipBlanks cs = '{' :: ds → MembersAt .object (EntryAt ValueOf) true ds es rest →
      Gives es "page" page → Gives es "size" size → AsksAt cs page size rest
  | list {cs ds rest : List Char} {ns : List Nat} :
      skipBlanks cs = '[' :: ds → MembersAt .list NaturalAt true ds ns rest → ns.length ≤ 2 →
      AsksAt cs (ns.getD 0 0) (ns.getD 1 0) rest

/-- A whole text asks for a page and a size. -/
def Asks (text : String) (page size : Nat) : Prop :=
  ∃ rest, AsksAt text.toList page size rest ∧ skipBlanks rest = []

/-! ### Objects -/

/-- How an entry changes what is known of a request. -/
inductive Draft.Takes : String → Option Nat → Draft → Draft → Prop where
  | page {key : String} {n : Nat} {s : Draft} : key = "page" → s.page = none →
      Takes key (some n) s { s with page := some n }
  | size {key : String} {n : Nat} {s : Draft} : key = "size" → s.size = none →
      Takes key (some n) s { s with size := some n }
  | other {key : String} {given : Option Nat} {s : Draft} : key ≠ "page" → key ≠ "size" →
      Takes key given s s

/-- What entries leave known of a key: what was known before, or the number of the only entry that has
the key. -/
def Known (es : List (String × Option Nat)) (key : String) (before after : Option Nat) : Prop :=
  es.filter (·.1 = key) = [] ∧ after = before ∨
    before = none ∧ ∃ n, after = some n ∧ es.filter (·.1 = key) = [(key, some n)]

theorem known_nil {key : String} {before after : Option Nat} :
    Known [] key before after ↔ after = before := by
  simp [Known]

theorem known_cons_other {key other : String} (h : other ≠ key) {given before after : Option Nat}
    {es : List (String × Option Nat)} :
    Known ((other, given) :: es) key before after ↔ Known es key before after := by
  simp only [Known]
  rw [List.filter_cons_of_neg (by simp [h])]

theorem known_cons_self {key : String} {given before after : Option Nat}
    {es : List (String × Option Nat)} :
    Known ((key, given) :: es) key before after ↔
      ∃ n, given = some n ∧ before = none ∧ Known es key (some n) after := by
  simp only [Known]
  rw [List.filter_cons_of_pos (by simp)]
  constructor
  · rintro (⟨h, _⟩ | ⟨hbefore, n, hafter, h⟩)
    · cases h
    · obtain ⟨hentry, hes⟩ := List.cons.inj h
      exact ⟨n, (Prod.mk.inj hentry).2, hbefore, .inl ⟨hes, hafter⟩⟩
  · rintro ⟨n, rfl, hbefore, (⟨hes, hafter⟩ | ⟨h, _⟩)⟩
    · exact .inr ⟨hbefore, n, hafter, by rw [hes]⟩
    · cases h

/-- Zero stands for what is not known. -/
theorem gives_iff_known {es : List (String × Option Nat)} {key : String} {n : Nat} :
    Gives es key n ↔ ∃ after, Known es key none after ∧ after.getD 0 = n := by
  constructor
  · rintro (h | ⟨h, rfl⟩)
    · exact ⟨some n, .inr ⟨rfl, n, rfl, h⟩, rfl⟩
    · exact ⟨none, .inl ⟨h, rfl⟩, rfl⟩
  · rintro ⟨after, (⟨h, rfl⟩ | ⟨_, m, rfl, h⟩), rfl⟩
    · exact .inr ⟨h, rfl⟩
    · exact .inl h

/-- Entries fill the two numbers of a request independently. -/
theorem fills_iff_known {es : List (String × Option Nat)} {s t : Draft} :
    Fills Draft.Takes es s t ↔ Known es "page" s.page t.page ∧ Known es "size" s.size t.size := by
  constructor
  · intro h
    induction h with
    | nil s => exact ⟨known_nil.2 rfl, known_nil.2 rfl⟩
    | cons htakes _ ih =>
      cases htakes with
      | page hkey hnone =>
        subst hkey
        exact ⟨known_cons_self.2 ⟨_, rfl, hnone, ih.1⟩, (known_cons_other (by decide)).2 ih.2⟩
      | size hkey hnone =>
        subst hkey
        exact ⟨(known_cons_other (by decide)).2 ih.1, known_cons_self.2 ⟨_, rfl, hnone, ih.2⟩⟩
      | other hpage hsize => exact ⟨(known_cons_other hpage).2 ih.1, (known_cons_other hsize).2 ih.2⟩
  · rintro ⟨hpage, hsize⟩
    induction es generalizing s with
    | nil =>
      obtain ⟨page, size⟩ := s
      obtain ⟨page', size'⟩ := t
      cases known_nil.1 hpage
      cases known_nil.1 hsize
      exact .nil _
    | cons e es ih =>
      obtain ⟨key, given⟩ := e
      by_cases hkey : key = "page"
      · subst hkey
        obtain ⟨n, rfl, hnone, hrest⟩ := known_cons_self.1 hpage
        exact .cons (.page rfl hnone) (ih hrest ((known_cons_other (by decide)).1 hsize))
      · by_cases hkey' : key = "size"
        · subst hkey'
          obtain ⟨n, rfl, hnone, hrest⟩ := known_cons_self.1 hsize
          exact .cons (.size rfl hnone) (ih ((known_cons_other (by decide)).1 hpage) hrest)
        · exact .cons (.other hkey hkey')
            (ih ((known_cons_other hkey).1 hpage) ((known_cons_other hkey').1 hsize))

/-! ### Reading requests -/

theorem takes_page (depth : Nat) :
    (Field.of "page" (natural wordMax "usize") Draft.page ({ · with page := some · }) (some 0)).Takes
      depth NaturalAt 0 fun s n => { s with page := some n } :=
  Field.takes_of fun _ _ _ => natural_eq_ok

theorem takes_size (depth : Nat) :
    (Field.of "size" (natural wordMax "usize") Draft.size ({ · with size := some · }) (some 0)).Takes
      depth NaturalAt 0 fun s n => { s with size := some n } :=
  Field.takes_of fun _ _ _ => natural_eq_ok

/-- An entry is read as the grammar says, and changes what is known of the request. -/
theorem entry_eq_ok {depth : Nat} (key : String) (s : Draft) (cs : List Char) (t : Draft)
    (rest : List Char) :
    (∃ read, record.entry depth key s = .ok read ∧ read cs = .ok (t, rest)) ↔
      ∃ given, ValueOf key cs given rest ∧ Draft.Takes key given s t := by
  by_cases hpage : key = "page"
  · rw [Record.entry_field (f := .of "page" _ _ _ _) (by rw [hpage]; rfl), (takes_page depth).read]
    constructor
    · rintro ⟨hfilled, n, hn, rfl⟩
      exact ⟨some n, .number (.inl hpage) hn, .page hpage (by simpa [Field.of] using hfilled)⟩
    · rintro ⟨given, hvalue, htakes⟩
      cases htakes with
      | page _ hnone =>
        cases hvalue with
        | number _ hn => exact ⟨by simp [Field.of, hnone], _, hn, rfl⟩
      | size hsize _ => exact absurd (hpage.symm.trans hsize) (by decide)
      | other hother _ => exact absurd hpage hother
  · by_cases hsize : key = "size"
    · rw [Record.entry_field (f := .of "size" _ _ _ _) (by rw [hsize]; rfl), (takes_size depth).read]
      constructor
      · rintro ⟨hfilled, n, hn, rfl⟩
        exact ⟨some n, .number (.inr hsize) hn, .size hsize (by simpa [Field.of] using hfilled)⟩
      · rintro ⟨given, hvalue, htakes⟩
        cases htakes with
        | page hother _ => exact absurd hother hpage
        | size _ hnone =>
          cases hvalue with
          | number _ hn => exact ⟨by simp [Field.of, hnone], _, hn, rfl⟩
        | other _ hother => exact absurd hsize hother
    · have hunknown : record.fields.find? (·.name == key) = none := by
        simp [record, Field.of, Ne.symm hpage, Ne.symm hsize]
      rw [Record.entry_unknown hunknown]
      constructor
      · rintro ⟨hvalue, rfl⟩
        exact ⟨none, .other hpage hsize hvalue, .other hpage hsize⟩
      · rintro ⟨given, hvalue, htakes⟩
        cases htakes with
        | page hother _ => exact absurd hother hpage
        | size hother _ => exact absurd hother hsize
        | other _ _ =>
          cases hvalue with
          | number hknown _ => exact absurd hknown (not_or.2 ⟨hpage, hsize⟩)
          | other _ _ hvalue => exact ⟨hvalue, rfl⟩

theorem ValueOf.length_le (key : String) (cs : List Char) (given : Option Nat) (rest : List Char)
    (h : ValueOf key cs given rest) : rest.length ≤ cs.length := by
  cases h with
  | number _ hn => exact hn.length_le
  | other _ _ hvalue => exact hvalue.length_le

theorem startsElement_of_naturalAt (cs : List Char) (n : Nat) (rest : List Char)
    (h : NaturalAt cs n rest) : StartsElement cs := by
  obtain ⟨d, ds, hds⟩ := List.exists_cons_of_ne_nil (decimal_ne_nil n)
  have hd : isDigit d = true := isDigit_of_mem (hds ▸ List.mem_cons_self)
  refine ⟨d, ds ++ rest, by rw [h.1, hds]; rfl, ?_⟩
  rintro rfl
  cases hd

/-- The two fields of a request, with the way in which each is put into the draft. -/
theorem fields_take (depth : Nat) :
    ∀ f ∈ record.fields.zip [fun (s : Draft) n => { s with page := some n },
        fun (s : Draft) n => { s with size := some n }],
      f.1.Takes depth NaturalAt 0 f.2 := by
  intro f hf
  rcases List.mem_cons.1 hf with rfl | hf
  · exact takes_page depth
  · obtain rfl := List.mem_singleton.1 hf
    exact takes_size depth

/-- A list gives the page and then the size. -/
theorem positional_fields_eq_ok {depth : Nat} {cs rest : List Char} {s : Draft} :
    (∃ ds, Record.positional record.listTitle depth record.fields 0 record.blank cs = .ok (s, ds) ∧
        skipBlanks ds = ']' :: rest) ↔
      ∃ ns, MembersAt .list NaturalAt true cs ns rest ∧ ns.length ≤ 2 ∧
        s = ⟨some (ns.getD 0 0), some (ns.getD 1 0)⟩ := by
  refine (positional_eq_ok (fun _ _ _ => naturalAt_skipBlanks) startsElement_of_naturalAt
    (fields_take depth) record.listTitle 0).trans (exists_congr fun ns => ?_)
  refine and_congr_right fun _ => and_congr_right fun hlength => ?_
  match ns, hlength with
  | [], _ => exact Iff.rfl
  | [_], _ => exact Iff.rfl
  | [_, _], _ => exact Iff.rfl

theorem readerAt_eq_ok {depth : Nat} {cs rest : List Char} {r : PageRequest} :
    reader (depth + 1) cs = .ok (r, rest) ↔
      ∃ page size, AsksAt cs page size rest ∧ r = of page size := by
  refine Record.reader_eq_ok.trans ⟨?_, ?_⟩
  · rintro (⟨ds, es, s, hopen, hfields, hclose, hfinish⟩ | ⟨ds, s, hopen, hentries, hfinish⟩)
    · obtain ⟨ns, hns, hlength, rfl⟩ := positional_fields_eq_ok.1 ⟨es, hfields, hclose⟩
      cases hfinish
      exact ⟨_, _, .list hopen hns hlength, rfl⟩
    · obtain ⟨es, hes, hfills⟩ := (entries_eq_ok entry_eq_ok ValueOf.length_le).1 hentries
      obtain ⟨hpage, hsize⟩ := fills_iff_known.1 hfills
      cases hfinish
      exact ⟨_, _, .object hopen hes (gives_iff_known.2 ⟨_, hpage, rfl⟩)
        (gives_iff_known.2 ⟨_, hsize, rfl⟩), rfl⟩
  · rintro ⟨page, size, hasks, rfl⟩
    cases hasks with
    | object hopen hes hpage hsize =>
      obtain ⟨p, hp, rfl⟩ := gives_iff_known.1 hpage
      obtain ⟨q, hq, rfl⟩ := gives_iff_known.1 hsize
      have hfills : Fills Draft.Takes _ record.blank ⟨p, q⟩ := fills_iff_known.2 ⟨hp, hq⟩
      exact .inr ⟨_, ⟨p, q⟩, hopen,
        (entries_eq_ok entry_eq_ok ValueOf.length_le).2 ⟨_, hes, hfills⟩, rfl⟩
    | list hopen hns hlength =>
      obtain ⟨es, hfields, hclose⟩ := positional_fields_eq_ok.2 ⟨_, hns, hlength, rfl⟩
      exact .inl ⟨_, es, _, hopen, hfields, hclose, rfl⟩

/-- **Exactly the texts that ask for a page and a size are read, as the request for them.** -/
theorem run_eq_ok {text : String} {r : PageRequest} :
    reader.run text = .ok r ↔ ∃ page size, Asks text page size ∧ r = of page size := by
  rw [Reader.run_eq_ok]
  constructor
  · rintro ⟨rest, hread, hend⟩
    obtain ⟨page, size, hasks, hr⟩ := readerAt_eq_ok.1 hread
    exact ⟨page, size, ⟨rest, hasks, hend⟩, hr⟩
  · rintro ⟨page, size, ⟨rest, hasks, hend⟩, hr⟩
    exact ⟨rest, readerAt_eq_ok.2 ⟨page, size, hasks, hr⟩, hend⟩

end Roster.PageRequest
