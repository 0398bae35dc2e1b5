import Roster.Json.Printer
import Roster.Proofs.Json.Naturals

/-!
# Values of any shape that are read back

* `reads_number` and `reads_truth` are about single values.
* `Value.nestedLists` are lists inside one another; `Value.reads_nestedLists` and
  `Value.reader_nestedLists_of_lt` say that they are read as long as so many levels are allowed.
* `Coding` says how items are written and read, and `Coding.natural` is one for natural numbers.
-/

namespace Roster.Json

open Roster.Number Roster.Text

/-! ### Single values -/

theorem Value.reader_of_single {c : Char} (hspace : isSpace c = false) (hlist : c ≠ '[')
    (hobject : c ≠ '{') (depth : Nat) (cs : List Char) :
    Value.reader depth (c :: cs) = Value.single (c :: cs) := by
  cases depth with
  | zero =>
    simp only [Value.reader]
    rw [skipBlanks_of_not_space hspace]
    split
    · rename_i he
      exact absurd (List.cons.inj he).1 hlist
    · rename_i he
      exact absurd (List.cons.inj he).1 hobject
    · rfl
  | succ depth =>
    simp only [Value.reader]
    rw [skipBlanks_of_not_space hspace]
    split
    · rename_i he
      exact absurd (List.cons.inj he).1 hlist
    · rename_i he
      exact absurd (List.cons.inj he).1 hobject
    · rfl

theorem Value.single_digit {c : Char} (h : isDigit c = true) (cs : List Char) :
    Value.single (c :: cs) = (Json.number (c :: cs)).map fun r => (.number r.1, r.2) := by
  have hstarts : startsNumber c = true := by
    rw [startsNumber, h, Bool.or_true]
  simp only [Value.single]
  rw [skipBlanks_of_not_space (not_space_of_isDigit h)]
  split
  -- The first letters of words, and the quote, are no digits.
  all_goals rename_i heq
  · cases heq
  · cases heq
    cases h
  · cases heq
    cases h
  · cases heq
    cases h
  · cases heq
    cases h
  · cases heq
    rw [if_pos hstarts]

theorem reads_number {n : Nat} (h : n ≤ wordMax) :
    Reads Value.reader 0 (Print.natural n) (.number (.natural n)) := by
  intro depth _ rest hr
  obtain ⟨d, ds, hds⟩ := List.exists_cons_of_ne_nil (decimal_ne_nil n)
  have hd : isDigit d = true := isDigit_of_mem (hds ▸ List.mem_cons_self)
  have hlist : d ≠ '[' := by
    rintro rfl
    cases hd
  have hobject : d ≠ '{' := by
    rintro rfl
    cases hd
  have hnumber := number_of_le h hr.endsNumber
  show Value.reader depth (decimal n ++ rest) = _
  rw [hds, List.cons_append] at hnumber ⊢
  rw [Value.reader_of_single (not_space_of_isDigit hd) hlist hobject, Value.single_digit hd, hnumber]
  rfl

theorem reads_truth (b : Bool) : Reads Value.reader 0 (Print.truth b) (.bool b) := by
  intro depth _ rest _
  cases b with
  | true => exact Value.reader_of_single (by decide) (by decide) (by decide) depth ("rue".toList ++ rest)
  | false => exact Value.reader_of_single (by decide) (by decide) (by decide) depth ("alse".toList ++ rest)

/-! ### Lists inside one another -/

/-- The word for no value inside so many lists. -/
def Value.nestedLists : Nat → Value
  | 0 => .null
  | n + 1 => .list [nestedLists n]

theorem Value.print_nestedLists_succ (n : Nat) :
    (nestedLists (n + 1)).print = Print.list [(nestedLists n).print] := rfl

theorem Value.opens_nestedLists (n : Nat) : Opens (nestedLists n).print := by
  cases n with
  | zero => exact opens_cons (by decide) _
  | succ n => exact opens_cons (by decide) _

theorem Value.reads_nestedLists (n : Nat) :
    Reads Value.reader n (nestedLists n).print (nestedLists n) := by
  induction n with
  | zero =>
    intro depth _ rest _
    exact reader_of_single (by decide) (by decide) (by decide) depth ("ull".toList ++ rest)
  | succ n ih =>
    intro depth hdepth rest _
    cases depth with
    | zero => cases hdepth
    | succ depth =>
      have hread := ih depth (Nat.le_of_succ_le_succ hdepth)
      have hitems : elements (Value.reader depth)
          (Print.commaSeparated [(nestedLists n).print] ++ ([']'] ++ rest)) =
            .ok ([nestedLists n], rest) :=
        elements_printed (List.forall_mem_singleton.2 (opens_nestedLists n))
          (List.forall_mem_singleton.2 hread) rest
      rw [print_nestedLists_succ]
      simp only [Print.list]
      rw [List.cons_append, List.cons_append, List.append_assoc]
      show (Value.list <$> elements (Value.reader depth)) _ = _
      rw [map_eq_pure_bind, bind_of_ok hitems]
      rfl

/-- Lists that are nested deeper than is allowed are not read. -/
theorem Value.reader_nestedLists_of_lt {n depth : Nat} (h : depth < n) (rest : List Char) :
    Value.reader depth ((nestedLists n).print ++ rest) = .error .tooDeep := by
  induction depth generalizing n rest with
  | zero =>
    cases n with
    | zero => cases h
    | succ n => rfl
  | succ depth ih =>
    cases n with
    | zero => cases h
    | succ n =>
      have hinner := ih (Nat.lt_of_succ_lt_succ h) (']' :: rest)
      rw [print_nestedLists_succ]
      simp only [Print.list, Print.commaSeparated]
      rw [List.cons_append, List.cons_append, List.append_assoc]
      show (Value.list <$> elements (Value.reader depth)) _ = _
      rw [map_eq_pure_bind]
      refine bind_of_error ?_ _
      show (nextElement true >>= _ : Scan (List Value)) ((nestedLists n).print ++ ']' :: rest) = _
      rw [bind_of_ok (nextElement_first (opens_nestedLists n) _), if_pos rfl]
      exact bind_of_error hinner _

/-! ### Items -/

/-- How items are written and read. -/
structure Coding (α : Type) where
  print : α → List Char
  read : Reader α
  /-- A text starts neither with white space nor with the end of a list. -/
  opens : ∀ a, Opens (print a)
  /-- What follows a value makes no difference to its reader. -/
  follows : ∀ {depth : Nat} {cs : List Char} {a : α}, read depth cs = .ok (a, []) →
    ∀ {rest : List Char}, EndsValue rest → read depth (cs ++ rest) = .ok (a, rest)

/-- Natural numbers of 64 bits. -/
def Coding.natural : Coding Nat where
  print := Print.natural
  read := Json.natural wordMax "u64"
  opens n := by
    obtain ⟨d, ds, hds⟩ := List.exists_cons_of_ne_nil (decimal_ne_nil n)
    have hd : isDigit d = true := isDigit_of_mem (hds ▸ List.mem_cons_self)
    refine ⟨d, ds, hds, not_space_of_isDigit hd, ?_⟩
    rintro rfl
    cases hd
  follows {depth cs n} h {rest} hrest := by
    obtain ⟨htext, hn, _⟩ := natural_eq_ok.1 h
    have hne : skipBlanks cs ≠ [] := by
      rw [htext, List.append_nil]
      exact decimal_ne_nil n
    refine natural_eq_ok.2 ⟨?_, hn, hrest.endsNumber⟩
    rw [skipBlanks_append hne, htext, List.append_nil]

end Roster.Json
