import Roster.Json.Record
import Roster.Proofs.Json.Texts
import Roster.Proofs.Steps
import Roster.Proofs.Text.Digits

/-!
# Values as they are written

What a printer writes a reader reads back, whatever stands after it: the end of the text, a comma or
a closing bracket or brace. `Reads` says so of a reader, a text and a value; the lemmas follow the
ways in which texts are put together.

* `reads_text` and `reads_natural` are about single values; `natural_of_wordMax_lt` says what becomes
  of a number that is too large.
* `reads_list` is about lists and `Reads.object` about objects; `Steps` says how the entries of an
  object lead from one state to another.
-/

namespace Roster.Json

open Roster.Number Roster.Text

/-- What may follow a value: nothing, a comma, or a closing bracket or brace. -/
def EndsValue (rest : List Char) : Prop := ∀ c, rest.head? = some c → c = ',' ∨ c = ']' ∨ c = '}'

theorem endsValue_nil : EndsValue [] := by
  intro c h
  cases h

theorem endsValue_cons {c : Char} (h : c = ',' ∨ c = ']' ∨ c = '}') (rest : List Char) :
    EndsValue (c :: rest) := by
  intro d hd
  cases hd
  exact h

/-- A reader that is given so many levels of nesting reads a text as a value. -/
def Reads {α : Type} (read : Reader α) (levels : Nat) (text : List Char) (a : α) : Prop :=
  ∀ depth, levels ≤ depth → ∀ rest, EndsValue rest → read depth (text ++ rest) = .ok (a, rest)

section Reads

variable {α β : Type} {read : Reader α} {levels : Nat} {text : List Char} {a : α}

theorem Reads.mono {more : Nat} (h : Reads read levels text a) (hle : levels ≤ more) :
    Reads read more text a :=
  fun depth hd rest hr => h depth (Nat.le_trans hle hd) rest hr

theorem Reads.map (h : Reads read levels text a) (f : α → β) :
    Reads (read.map f) levels text (f a) := by
  intro depth hd rest hr
  show (f <$> read depth) (text ++ rest) = _
  rw [map_eq_pure_bind, bind_of_ok (h depth hd rest hr)]
  rfl

theorem Reads.check (h : Reads read levels text a) {f : α → Except Error β} {b : β}
    (hf : f a = .ok b) : Reads (read.check f) levels text b := by
  intro depth hd rest hr
  simp only [Reader.check]
  rw [bind_of_ok (h depth hd rest hr), hf]
  rfl

theorem Reads.run (h : Reads read deepest text a) : read.run (String.ofList text) = .ok a := by
  have hread := h deepest (Nat.le_refl _) [] endsValue_nil
  rw [List.append_nil] at hread
  simp only [Reader.run]
  rw [String.toList_ofList, hread]
  rfl

end Reads

/-! ### Texts -/

theorem textRest_escaped (s : String) (rest : List Char) :
    textRest (s.toList.flatMap Print.escapedChar ++ '"' :: rest) = .ok (s, rest) := by
  simp only [textRest]
  rw [textBody_escaped]
  show Except.ok (String.ofList s.toList, rest) = _
  rw [String.ofList_toList]

theorem reads_textAs (expected s : String) : Reads (textAs expected) 0 (Print.text s) s := by
  intro depth _ rest _
  have h := textRest_escaped s rest
  simp only [Print.text]
  rw [List.cons_append, List.cons_append, List.append_assoc]
  exact h

/-! ### Numbers -/

theorem EndsValue.endsDigits {rest : List Char} (h : EndsValue rest) : EndsDigits rest := by
  intro c hc
  rcases h c hc with rfl | rfl | rfl <;> decide

/-- All digits are taken of a number of 64 bits. -/
theorem takeDigits_of_le {ds rest : List Char} (hd : ∀ c ∈ ds, isDigit c = true)
    (hr : EndsDigits rest) (n count : Nat) (h : Nat.ofDigitChars 10 ds n ≤ wordMax) :
    takeDigits n count (ds ++ rest) = (Nat.ofDigitChars 10 ds n, count + ds.length, rest) := by
  induction ds generalizing n count with
  | nil =>
    cases rest with
    | nil => rfl
    | cons c rest => simp [takeDigits, hr c rfl]
  | cons d ds ih =>
    have hdigit := hd d List.mem_cons_self
    rw [Nat.ofDigitChars_cons] at h ⊢
    have hvalue : n * 10 + digitValue d = 10 * n + (d.toNat - '0'.toNat) := by
      simp only [digitValue]
      omega
    have hle : n * 10 + digitValue d ≤ wordMax := by
      rw [hvalue]
      exact Nat.le_trans (le_ofDigitChars ds _) h
    show takeDigits n count (d :: (ds ++ rest)) = _
    simp only [takeDigits]
    rw [if_pos (by simp [hdigit, hle]), hvalue,
      ih (fun c hc => hd c (List.mem_cons_of_mem d hc)) _ _ h, List.length_cons]
    simp only [Nat.add_assoc, Nat.add_comm 1]

/-- Of a number beyond 64 bits some digits are left. -/
theorem takeDigits_of_lt (rest : List Char) {ds : List Char} (hd : ∀ c ∈ ds, isDigit c = true) {n : Nat}
    (hn : n ≤ wordMax) (count : Nat) (h : wordMax < Nat.ofDigitChars 10 ds n) :
    ∃ s k post, post ≠ [] ∧ (∀ c ∈ post, isDigit c = true) ∧
      takeDigits n count (ds ++ rest) = (s, k, post ++ rest) := by
  induction ds generalizing n count with
  | nil => exact absurd h (Nat.not_lt.2 hn)
  | cons d ds ih =>
    have hdigit := hd d List.mem_cons_self
    rw [Nat.ofDigitChars_cons] at h
    have hvalue : n * 10 + digitValue d = 10 * n + (d.toNat - '0'.toNat) := by
      simp only [digitValue]
      omega
    show ∃ s k post, _ ∧ _ ∧ takeDigits n count (d :: (ds ++ rest)) = _
    simp only [takeDigits]
    by_cases hle : n * 10 + digitValue d ≤ wordMax
    · rw [if_pos (by simp [hdigit, hle])]
      exact ih (fun c hc => hd c (List.mem_cons_of_mem d hc)) hle _ (by rw [hvalue]; exact h)
    · rw [if_neg (by simp [hle])]
      exact ⟨n, count, d :: ds, List.cons_ne_nil d ds, hd, rfl⟩

/-- A number starts with a digit, and not with a zero that others follow. -/
theorem decimal_eq_cons (n : Nat) {rest : List Char} (hr : EndsDigits rest) :
    ∃ d ds, decimal n = d :: ds ∧ isDigit d = true ∧
      (d == '0' && (ds ++ rest).head?.any isDigit) = false := by
  obtain ⟨d, ds, hds⟩ := List.exists_cons_of_ne_nil (decimal_ne_nil n)
  have hd : isDigit d = true := isDigit_of_mem (hds ▸ List.mem_cons_self)
  refine ⟨d, ds, hds, hd, ?_⟩
  by_cases hn : 0 < n
  · have hzero := head?_decimal_ne_zero hn
    rw [hds] at hzero
    have hne : d ≠ '0' := fun he => hzero (congrArg some he)
    simp [hne]
  · have hn0 : n = 0 := by omega
    subst hn0
    have hnil : ds = [] := by
      have hzero : decimal 0 = ['0'] := Nat.toDigits_zero 10
      rw [hds] at hzero
      exact (List.cons.inj hzero).2
    subst hnil
    cases rest with
    | nil => simp
    | cons c rest => simp [hr c rfl]

theorem number_eq_unsigned {c : Char} (h : isDigit c = true) (cs : List Char) :
    number (c :: cs) = unsignedNumber false (c :: cs) := by
  simp only [number]
  split
  · rename_i rest he
    injection he with hc _
    rw [hc] at h
    cases h
  · rfl

/-- A text with which a whole number does not go on. -/
def EndsNumber (rest : List Char) : Prop :=
  ∀ c, rest.head? = some c → isDigit c = false ∧ c ≠ '.' ∧ c ≠ 'e' ∧ c ≠ 'E'

theorem EndsNumber.endsDigits {rest : List Char} (h : EndsNumber rest) : EndsDigits rest :=
  fun c hc => (h c hc).1

theorem EndsValue.endsNumber {rest : List Char} (h : EndsValue rest) : EndsNumber rest := by
  intro c hc
  rcases h c hc with rfl | rfl | rfl <;> decide

/-- After its digits a number in front of what ends it has no places and no exponent. -/
theorem unsignedNumber_eq {d : Char} {ds rest : List Char} (hd : isDigit d = true)
    (hzero : (d == '0' && (ds ++ rest).head?.any isDigit) = false) (hr : EndsNumber rest) {s k : Nat}
    {post : List Char} (hpost : ∀ c ∈ post, isDigit c = true)
    (h : takeDigits 0 0 (d :: (ds ++ rest)) = (s, k, post ++ rest)) :
    unsignedNumber false (d :: (ds ++ rest)) =
      if post.isEmpty then .ok (.natural s, rest)
      else (scaled false s post.length).map fun x => (.float x, rest) := by
  have hextra := takeWhile_digits hpost hr.endsDigits
  have hdrop := dropWhile_digits hpost hr.endsDigits
  simp only [unsignedNumber]
  simp only [hd, hzero, h, hextra, hdrop, Bool.not_true, Bool.false_eq_true, ↓reduceIte]
  split
  · exact absurd rfl (hr '.' rfl).2.1
  · exact absurd rfl (hr 'e' rfl).2.2.1
  · exact absurd rfl (hr 'E' rfl).2.2.2
  · rfl

theorem number_of_le {n : Nat} (h : n ≤ wordMax) {rest : List Char} (hr : EndsNumber rest) :
    number (decimal n ++ rest) = .ok (.natural n, rest) := by
  obtain ⟨d, ds, hds, hd, hzero⟩ := decimal_eq_cons n hr.endsDigits
  have hvalue : Nat.ofDigitChars 10 (decimal n) 0 = n := ofDecimal_decimal n
  have htake := takeDigits_of_le (fun c hc => isDigit_of_mem hc) hr.endsDigits 0 0
    (by rw [hvalue]; exact h)
  rw [hvalue, hds] at htake
  have htake' : takeDigits 0 0 (d :: (ds ++ rest)) = (n, _, [] ++ rest) := htake
  rw [hds, List.cons_append, number_eq_unsigned hd, unsignedNumber_eq hd hzero hr (by simp) htake']
  rfl

/-- A number beyond 64 bits is no whole number any more, if it is one at all. -/
theorem number_of_lt {n : Nat} (h : wordMax < n) {rest : List Char} (hr : EndsValue rest) :
    (∃ e, number (decimal n ++ rest) = .error e) ∨
      ∃ x more, number (decimal n ++ rest) = .ok (.float x, more) := by
  obtain ⟨d, ds, hds, hd, hzero⟩ := decimal_eq_cons n hr.endsDigits
  have hvalue : Nat.ofDigitChars 10 (decimal n) 0 = n := ofDecimal_decimal n
  obtain ⟨s, k, post, hne, hpost, htake⟩ := takeDigits_of_lt rest
    (fun c hc => isDigit_of_mem hc) (Nat.zero_le wordMax) 0 (by rw [hvalue]; exact h)
  rw [hds] at htake
  have hempty : post.isEmpty = false := by
    cases post with
    | nil => exact absurd rfl hne
    | cons c post => rfl
  rw [hds, List.cons_append, number_eq_unsigned hd, unsignedNumber_eq hd hzero hr.endsNumber hpost htake,
    hempty, if_neg Bool.false_ne_true]
  cases scaled false s post.length with
  | error e => exact Or.inl ⟨e, rfl⟩
  | ok x => exact Or.inr ⟨x, rest, rfl⟩

theorem skipBlanks_of_not_space {c : Char} (h : isSpace c = false) (cs : List Char) :
    skipBlanks (c :: cs) = c :: cs := List.dropWhile_cons_of_neg (by simp [h])

theorem not_space_of_isDigit {c : Char} (h : isDigit c = true) : isSpace c = false := by
  refine Bool.eq_false_iff.2 fun hs => ?_
  simp only [isSpace, Bool.or_eq_true, beq_iff_eq] at hs
  rcases hs with ((rfl | rfl) | rfl) | rfl <;> cases h

/-- The reader of numbers looks at a written number as it is. -/
theorem natural_decimal (limit : Nat) (expected : String) (n depth : Nat) (rest : List Char) :
    natural limit expected depth (decimal n ++ rest) =
      match number (decimal n ++ rest) with
      | .error e => .error e
      | .ok (.natural n, rest) =>
        if n ≤ limit then .ok (n, rest) else .error (.wrongValue (.natural n) expected)
      | .ok (.negative i, _) => .error (.wrongValue (.negative i) expected)
      | .ok (.float x, _) => .error (.wrongType (.float x) expected) := by
  obtain ⟨d, ds, hds⟩ := List.exists_cons_of_ne_nil (decimal_ne_nil n)
  have hd : isDigit d = true := isDigit_of_mem (hds ▸ List.mem_cons_self)
  have hstarts : (d :: (ds ++ rest)).head?.any startsNumber = true := by
    show (d == '-' || isDigit d) = true
    rw [hd, Bool.or_true]
  simp only [natural, hds, List.cons_append, skipBlanks_of_not_space (not_space_of_isDigit hd)]
  exact if_pos hstarts

theorem reads_natural {n : Nat} (h : n ≤ wordMax) (expected : String) :
    Reads (natural wordMax expected) 0 (Print.natural n) n := by
  intro depth _ rest hr
  show natural wordMax expected depth (decimal n ++ rest) = _
  rw [natural_decimal, number_of_le h hr.endsNumber]
  simp only [if_pos h]

theorem natural_of_wordMax_lt {n : Nat} (h : wordMax < n) (expected : String) (depth : Nat)
    {rest : List Char} (hr : EndsValue rest) :
    ∃ e, natural wordMax expected depth (Print.natural n ++ rest) = .error e := by
  show ∃ e, natural wordMax expected depth (decimal n ++ rest) = _
  rw [natural_decimal]
  rcases number_of_lt h hr with ⟨e, he⟩ | ⟨x, more, he⟩
  · rw [he]
    exact ⟨e, rfl⟩
  · rw [he]
    exact ⟨_, rfl⟩

/-! ### Lists -/

/-- A text that an element of a list can start with. -/
def Opens (text : List Char) : Prop := ∃ c cs, text = c :: cs ∧ isSpace c = false ∧ c ≠ ']'

theorem opens_cons {c : Char} (h : isSpace c = false ∧ c ≠ ']') (cs : List Char) :
    Opens (c :: cs) := ⟨c, cs, rfl, h⟩

theorem commaSeparated_cons (a : List Char) (more : List (List Char)) :
    Print.commaSeparated (a :: more) = a ++ more.flatMap fun b => ',' :: b := by
  induction more generalizing a with
  | nil => simp [Print.commaSeparated]
  | cons b more ih =>
    show a ++ ',' :: Print.commaSeparated (b :: more) = _
    rw [ih, List.flatMap_cons]
    rfl

theorem length_le_commas (texts : List (List Char)) :
    texts.length ≤ (texts.flatMap fun b => ',' :: b).length := by
  induction texts with
  | nil => exact Nat.zero_le _
  | cons a texts ih =>
    rw [List.flatMap_cons, List.length_append, List.length_cons, List.length_cons]
    omega

theorem closeList_bracket (rest : List Char) : closeList (']' :: rest) = .ok ((), rest) := rfl

theorem nextElement_bracket (first : Bool) (rest : List Char) :
    nextElement first (']' :: rest) = .ok (false, ']' :: rest) := rfl

theorem nextElement_first {text : List Char} (h : Opens text) (rest : List Char) :
    nextElement true (text ++ rest) = .ok (true, text ++ rest) := by
  obtain ⟨c, cs, rfl, hspace, hbracket⟩ := h
  unfold nextElement
  rw [List.cons_append, skipBlanks_of_not_space hspace]
  split
  · rename_i he
    cases he
  · rename_i he
    injection he with hc _
    exact absurd hc hbracket
  · rename_i he
    rw [if_pos rfl, he]

theorem nextElement_comma {text : List Char} (h : Opens text) (rest : List Char) :
    nextElement false (',' :: (text ++ rest)) = .ok (true, text ++ rest) := by
  obtain ⟨c, cs, rfl, hspace, hbracket⟩ := h
  simp only [nextElement, List.cons_append,
    skipBlanks_of_not_space (show isSpace ',' = false by decide), Bool.false_eq_true, ↓reduceIte]
  split
  · rename_i he
    cases he
  · rename_i he
    injection he with hc _
    exact absurd hc (by decide)
  · rename_i he
    injection he with hc hmore
    rw [← hc, ← hmore, if_pos rfl, skipBlanks_of_not_space hspace]
    split
    · rename_i he
      cases he
    · rename_i he
      injection he with hc _
      exact absurd hc hbracket
    · rfl

section Lists

variable {α : Type} {print : α → List Char} {read : Scan α}

/-- The elements that are left of a list are read back, each after its comma. -/
theorem elementsFrom_printed {items : List α} (hopens : ∀ a ∈ items, Opens (print a))
    (hread : ∀ a ∈ items, ∀ rest, EndsValue rest → read (print a ++ rest) = .ok (a, rest))
    {fuel : Nat} (hfuel : items.length < fuel) (rest : List Char) :
    elementsFrom read fuel false ((items.map print).flatMap (fun b => ',' :: b) ++ ']' :: rest) =
      .ok (items, rest) := by
  induction items generalizing fuel with
  | nil =>
    cases fuel with
    | zero => cases hfuel
    | succ fuel =>
      show (nextElement false >>= _ : Scan (List α)) (']' :: rest) = _
      rw [bind_of_ok (nextElement_bracket false rest), if_neg Bool.false_ne_true,
        bind_of_ok (closeList_bracket rest)]
      rfl
  | cons a items ih =>
    cases fuel with
    | zero => cases hfuel
    | succ fuel =>
      have hends : EndsValue ((items.map print).flatMap (fun b => ',' :: b) ++ ']' :: rest) := by
        cases items with
        | nil => exact endsValue_cons (by decide) rest
        | cons b items => exact endsValue_cons (by decide) _
      have hrest := ih (fun b hb => hopens b (List.mem_cons_of_mem a hb))
        (fun b hb => hread b (List.mem_cons_of_mem a hb)) (Nat.lt_of_succ_lt_succ hfuel)
      rw [List.map_cons, List.flatMap_cons, List.append_assoc]
      show (nextElement false >>= _ : Scan (List α)) (',' :: (print a ++ _)) = _
      rw [bind_of_ok (nextElement_comma (hopens a List.mem_cons_self) _), if_pos rfl,
        bind_of_ok (hread a List.mem_cons_self _ hends), bind_of_ok hrest]
      rfl

theorem elements_printed {items : List α} (hopens : ∀ a ∈ items, Opens (print a))
    (hread : ∀ a ∈ items, ∀ rest, EndsValue rest → read (print a ++ rest) = .ok (a, rest))
    (rest : List Char) :
    elements read (Print.commaSeparated (items.map print) ++ ']' :: rest) = .ok (items, rest) := by
  cases items with
  | nil =>
    show (nextElement true >>= _ : Scan (List α)) (']' :: rest) = _
    rw [bind_of_ok (nextElement_bracket true rest), if_neg Bool.false_ne_true,
      bind_of_ok (closeList_bracket rest)]
    rfl
  | cons a items =>
    have hends : EndsValue ((items.map print).flatMap (fun b => ',' :: b) ++ ']' :: rest) := by
      cases items with
      | nil => exact endsValue_cons (by decide) rest
      | cons b items => exact endsValue_cons (by decide) _
    have hfuel : items.length < (print a ++
        ((items.map print).flatMap (fun b => ',' :: b) ++ ']' :: rest)).length := by
      have hcommas := length_le_commas (items.map print)
      rw [List.length_map] at hcommas
      rw [List.length_append, List.length_append, List.length_cons]
      omega
    have hrest := elementsFrom_printed (fun b hb => hopens b (List.mem_cons_of_mem a hb))
      (fun b hb => hread b (List.mem_cons_of_mem a hb)) hfuel rest
    rw [List.map_cons, commaSeparated_cons, List.append_assoc]
    show (nextElement true >>= _ : Scan (List α)) _ = _
    rw [bind_of_ok (nextElement_first (hopens a List.mem_cons_self) _), if_pos rfl,
      bind_of_ok (hread a List.mem_cons_self _ hends), bind_of_ok hrest]
    rfl

end Lists

theorem list_printed {α : Type} {read : Reader α} {depth : Nat} {print : α → List Char} {items : List α}
    (hopens : ∀ a ∈ items, Opens (print a))
    (hread : ∀ a ∈ items, ∀ rest, EndsValue rest → read depth (print a ++ rest) = .ok (a, rest))
    (rest : List Char) :
    list read (depth + 1) (Print.list (items.map print) ++ rest) = .ok (items, rest) := by
  have hitems := elements_printed hopens hread rest
  simp only [Print.list]
  rw [List.cons_append, List.cons_append, List.append_assoc]
  exact hitems

theorem reads_list {α : Type} {read : Reader α} {levels : Nat} {print : α → List Char}
    {items : List α} (hopens : ∀ a ∈ items, Opens (print a))
    (hread : ∀ a ∈ items, Reads read levels (print a) a) :
    Reads (list read) (levels + 1) (Print.list (items.map print)) items := by
  intro depth hdepth rest _
  cases depth with
  | zero => exact absurd hdepth (Nat.not_succ_le_zero levels)
  | succ depth =>
    exact list_printed hopens (fun a ha => hread a ha depth (Nat.le_of_succ_le_succ hdepth)) rest

/-! ### Objects -/

/-- How entries lead from one state to another, each read by what the step says for its key. -/
inductive Steps {σ : Type} (step : String → σ → Except Error (Scan σ)) :
    List (String × List Char) → σ → σ → Prop where
  | nil (s : σ) : Steps step [] s s
  | cons {key : String} {text : List Char} {more : List (String × List Char)} {s t u : σ}
      {read : Scan σ} (allowed : step key s = .ok read)
      (reads : ∀ rest, EndsValue rest → read (text ++ rest) = .ok (t, rest))
      (others : Steps step more t u) : Steps step ((key, text) :: more) s u

section Objects

variable {σ : Type} {step : String → σ → Except Error (Scan σ)}

theorem closeObject_brace (rest : List Char) : closeObject ('}' :: rest) = .ok ((), rest) := rfl

theorem colon_cons (rest : List Char) : colon (':' :: rest) = .ok ((), rest) := rfl

theorem nextKey_brace (first : Bool) (rest : List Char) :
    nextKey first ('}' :: rest) = .ok (false, '}' :: rest) := rfl

theorem nextKey_first (rest : List Char) : nextKey true ('"' :: rest) = .ok (true, rest) := rfl

theorem nextKey_comma (rest : List Char) : nextKey false (',' :: '"' :: rest) = .ok (true, rest) :=
  rfl

/-- An entry as it stands in an object, with what comes after it. -/
theorem entry_append (key : String) (text rest : List Char) :
    Print.entry (key, text) ++ rest =
      '"' :: (key.toList.flatMap Print.escapedChar ++ '"' :: ':' :: (text ++ rest)) := by
  simp only [Print.entry, Print.text]
  simp

theorem endsValue_commas {es : List (String × List Char)} {rest : List Char} (h : EndsValue rest) :
    EndsValue ((es.map Print.entry).flatMap (fun b => ',' :: b) ++ rest) := by
  cases es with
  | nil => exact h
  | cons e es => exact endsValue_cons (by decide) _

/-- Entries in the middle of an object, each after its comma, are read in turn. -/
theorem entriesFrom_steps {es : List (String × List Char)} {s t : σ} (h : Steps step es s t)
    (fuel : Nat) {rest : List Char} (hr : EndsValue rest) :
    entriesFrom step (es.length + fuel) false s
        ((es.map Print.entry).flatMap (fun b => ',' :: b) ++ rest) =
      entriesFrom step fuel false t rest := by
  induction h with
  | nil s =>
    rw [List.length_nil, Nat.zero_add]
    rfl
  | @cons key text more s t u read allowed reads _ ih =>
    rw [List.length_cons, Nat.add_right_comm, List.map_cons, List.flatMap_cons, List.append_assoc,
      List.cons_append, entry_append]
    show (nextKey false >>= _ : Scan σ) _ = _
    rw [bind_of_ok (nextKey_comma _), if_pos rfl, bind_of_ok (textRest_escaped key _), allowed,
      bind_of_ok (a := read) rfl, bind_of_ok (colon_cons _), bind_of_ok (reads _ (endsValue_commas hr)),
      ih]

/-- The entries that an object starts with are read in turn. Enough fuel is left for the others. -/
theorem entries_steps {e : String × List Char} {es : List (String × List Char)} {s t : σ}
    (h : Steps step (e :: es) s t) {rest : List Char} (hr : EndsValue rest) :
    ∃ fuel, entries step s (Print.commaSeparated ((e :: es).map Print.entry) ++ rest) =
      entriesFrom step (fuel + 1) false t rest := by
  cases h with
  | @cons key text _ _ t' _ read allowed reads more =>
    have hcommas := length_le_commas (es.map Print.entry)
    rw [List.length_map] at hcommas
    rw [List.map_cons, commaSeparated_cons, List.append_assoc]
    simp only [entries]
    obtain ⟨fuel, hfuel⟩ : ∃ fuel, (Print.entry (key, text) ++
        ((es.map Print.entry).flatMap (fun b => ',' :: b) ++ rest)).length =
          es.length + (fuel + 1) := by
      refine ⟨(Print.entry (key, text) ++ ((es.map Print.entry).flatMap (fun b => ',' :: b) ++
        rest)).length - es.length - 1, ?_⟩
      rw [entry_append, List.length_cons, List.length_append, List.length_cons, List.length_cons,
        List.length_append, List.length_append]
      omega
    refine ⟨fuel, ?_⟩
    rw [hfuel, entry_append]
    show (nextKey true >>= _ : Scan σ) _ = _
    rw [bind_of_ok (nextKey_first _), if_pos rfl, bind_of_ok (textRest_escaped key _), allowed,
      bind_of_ok (a := read) rfl, bind_of_ok (colon_cons _), bind_of_ok (reads _ (endsValue_commas hr)),
      entriesFrom_steps more (fuel + 1) hr]

/-- All entries of an object are read in turn, up to its closing brace. -/
theorem entries_printed {es : List (String × List Char)} {s t : σ} (h : Steps step es s t)
    (rest : List Char) :
    entries step s (Print.commaSeparated (es.map Print.entry) ++ '}' :: rest) = .ok (t, rest) := by
  cases es with
  | nil =>
    cases h
    show (nextKey true >>= _ : Scan σ) ('}' :: rest) = _
    rw [bind_of_ok (nextKey_brace true rest), if_neg Bool.false_ne_true,
      bind_of_ok (closeObject_brace rest)]
    rfl
  | cons e es =>
    obtain ⟨fuel, hfuel⟩ := entries_steps h (endsValue_cons (c := '}') (by decide) rest)
    rw [hfuel]
    show (nextKey false >>= _ : Scan σ) ('}' :: rest) = _
    rw [bind_of_ok (nextKey_brace false rest), if_neg Bool.false_ne_true,
      bind_of_ok (closeObject_brace rest)]
    rfl

theorem entries_fail_first {key : String} {text : List Char} {es : List (String × List Char)} {s : σ}
    {read : Scan σ} (allowed : step key s = .ok read) {e : Error}
    (hfail : ∀ rest, read (text ++ rest) = .error e) (rest : List Char) :
    entries step s (Print.commaSeparated (((key, text) :: es).map Print.entry) ++ rest) =
      .error e := by
  rw [List.map_cons, commaSeparated_cons, List.append_assoc, entry_append]
  show (nextKey true >>= _ : Scan σ) _ = _
  rw [bind_of_ok (nextKey_first _), if_pos rfl, bind_of_ok (textRest_escaped key _), allowed,
    bind_of_ok (a := read) rfl, bind_of_ok (colon_cons _)]
  exact bind_of_error (hfail _) _

/-- An object fails with the first entry that does. -/
theorem entries_fail {e : String × List Char} {es : List (String × List Char)} {s t : σ}
    (h : Steps step (e :: es) s t) {key : String} {text : List Char} {read : Scan σ}
    (allowed : step key t = .ok read)
    (hfail : ∀ rest, EndsValue rest → ∃ e, read (text ++ rest) = .error e) (rest : List Char) :
    ∃ e', entries step s (Print.commaSeparated ((e :: es ++ [(key, text)]).map Print.entry) ++
      '}' :: rest) = .error e' := by
  obtain ⟨err, herr⟩ := hfail ('}' :: rest) (endsValue_cons (by decide) rest)
  have hlast : Print.commaSeparated ((e :: es ++ [(key, text)]).map Print.entry) ++ '}' :: rest =
      Print.commaSeparated ((e :: es).map Print.entry) ++
        ',' :: (Print.entry (key, text) ++ '}' :: rest) := by
    rw [List.cons_append, List.map_cons, List.map_cons, commaSeparated_cons, commaSeparated_cons,
      List.map_append, List.flatMap_append]
    simp
  obtain ⟨fuel, hfuel⟩ := entries_steps h
    (endsValue_cons (c := ',') (by decide) (Print.entry (key, text) ++ '}' :: rest))
  refine ⟨err, ?_⟩
  rw [hlast, hfuel, entry_append]
  show (nextKey false >>= _ : Scan σ) _ = _
  rw [bind_of_ok (nextKey_comma _), if_pos rfl, bind_of_ok (textRest_escaped key _), allowed,
    bind_of_ok (a := read) rfl, bind_of_ok (colon_cons _)]
  exact bind_of_error herr _

end Objects

/-! ### Records -/

namespace Record

variable {σ α β : Type} {r : Record σ α}

/-- The entry of a field that the draft lacks puts the value of the entry there. -/
theorem steps_cons {depth levels : Nat} {key name : String} {read : Reader β} {get : σ → Option β}
    {set : σ → β → σ} {default : Option β} {text : List Char} {b : β} {s t : σ}
    {more : List (String × List Char)} (hdepth : levels ≤ depth)
    (hfind : r.fields.find? (fun f => f.name == key) = some (.of name read get set default))
    (hget : get s = none) (hread : Reads read levels text b)
    (hmore : Steps (r.entry depth) more (set s b) t) :
    Steps (r.entry depth) ((key, text) :: more) s t := by
  have hallowed : r.entry depth key s = .ok ((Field.of name read get set default).read s depth) := by
    simp only [entry]
    rw [hfind]
    show (if (get s).isSome = true then _ else _) = _
    rw [hget]
    rfl
  exact Steps.cons hallowed (fun rest hr => hread.map (set s) depth hdepth rest hr) hmore

/-- A record is read back from an object whose entries lead to a draft of it. -/
theorem reads_object {levels : Nat} {es : List (String × List Char)} {s : σ} {a : α}
    (hsteps : ∀ depth, levels ≤ depth → Steps (r.entry depth) es r.blank s)
    (hfinish : r.finish s = .ok a) : Reads r.reader (levels + 1) (Print.object es) a := by
  intro depth hdepth rest _
  cases depth with
  | zero => exact absurd hdepth (Nat.not_succ_le_zero levels)
  | succ depth =>
    have hentries := entries_printed (hsteps depth (Nat.le_of_succ_le_succ hdepth)) rest
    simp only [Print.object]
    rw [List.cons_append, List.cons_append, List.append_assoc]
    show (entries (r.entry depth) r.blank >>= _ : Scan α)
      (Print.commaSeparated (es.map Print.entry) ++ '}' :: rest) = _
    rw [bind_of_ok hentries, hfinish]
    rfl

end Record

/-! ### Values or null -/

theorem reads_optional_none {α : Type} (read : Reader α) :
    Reads (optional read) 0 Print.null none := by
  intro depth _ rest _
  rfl

theorem reads_optional_some {α : Type} {read : Reader α} {levels : Nat} {cs : List Char} {a : α}
    (h : Reads read levels ('"' :: cs) a) : Reads (optional read) levels ('"' :: cs) (some a) := by
  intro depth hdepth rest hr
  show Except.map _ (read depth ('"' :: cs ++ rest)) = _
  rw [h depth hdepth rest hr]
  rfl

end Roster.Json
