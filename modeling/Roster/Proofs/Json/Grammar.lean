import Roster.Json.Skip
import Roster.Proofs.Steps
import Roster.Proofs.Text.Digits

/-!
# The grammar of JSON

What a JSON text looks like, apart from how it is read. Every part of the grammar is a relation between
a text that starts with the part and what is left after it; white space is passed over in front of a
part, and digits are taken as far as they go.

* `TextAt` and `UnsignedAt` are about texts and numbers, `ValueAt` about values of any shape.
* `textBody_eq_ok` and `skipNumber_eq_ok` say that the readers of texts and numbers read what the
  grammar says and nothing else.
-/

namespace Roster.Json

open Roster.Text

/-! ### Texts -/

/-- A text after its opening quote, the characters that it stands for and what follows its closing
quote. With `paired`, escapes of surrogates stand in pairs; without, each escape is taken alone. -/
inductive TextAt (paired : Bool) : List Char → List Char → List Char → Prop where
  | close (rest : List Char) : TextAt paired ('"' :: rest) [] rest
  | plain {c : Char} {cs t rest : List Char} : c ≠ '"' → c ≠ '\\' → 0x20 ≤ c.toNat →
      TextAt paired cs t rest → TextAt paired (c :: cs) (c :: t) rest
  | short {e c : Char} {cs t rest : List Char} : shortEscape? e = some c →
      TextAt paired cs t rest → TextAt paired ('\\' :: e :: cs) (c :: t) rest
  | unit {a b c d : Char} {n : Nat} {cs t rest : List Char} : hexUnit? a b c d = some n →
      (paired = true → isLeading n = false ∧ isTrailing n = false) →
      TextAt paired cs t rest →
      TextAt paired ('\\' :: 'u' :: a :: b :: c :: d :: cs) (Char.ofNat n :: t) rest
  | pair {a b c d e f g h : Char} {n m : Nat} {cs t rest : List Char} : paired = true →
      hexUnit? a b c d = some n → isLeading n = true →
      hexUnit? e f g h = some m → isTrailing m = true →
      TextAt paired cs t rest →
      TextAt paired
        ('\\' :: 'u' :: a :: b :: c :: d :: '\\' :: 'u' :: e :: f :: g :: h :: cs)
        (pairChar n m :: t) rest

theorem consRead_eq_ok {c : Char} {x : Outcome (List Char)} {t rest : List Char} :
    consRead c x = .ok (t, rest) ↔ ∃ t', x = .ok (t', rest) ∧ t = c :: t' := by
  cases x with
  | error e => exact iff_of_false error_ne_ok fun ⟨_, h, _⟩ => nomatch h
  | ok r =>
    refine ⟨fun h => ?_, ?_⟩
    · cases h
      exact ⟨r.1, rfl, rfl⟩
    · rintro ⟨t', h, rfl⟩
      cases h
      rfl

theorem textAt_of_textBody {paired : Bool} {cs t rest : List Char}
    (h : textBody paired cs = .ok (t, rest)) : TextAt paired cs t rest := by
  fun_induction textBody paired cs generalizing t rest with
  | case2 rest =>
    cases h
    exact .close _
  | case5 a b c d cs n hn hloose ih =>
    obtain ⟨t', ht', rfl⟩ := consRead_eq_ok.1 h
    exact .unit hn (fun hp => by simp [hp] at hloose) (ih ht')
  | case10 a b c d n hn hpaired _ hlead e f g h' cs m hm htrail ih =>
    obtain ⟨t', ht', rfl⟩ := consRead_eq_ok.1 h
    exact .pair (by simpa using hpaired) hn hlead hm htrail (ih ht')
  | case14 a b c d cs n hn _ htrail hlead ih =>
    obtain ⟨t', ht', rfl⟩ := consRead_eq_ok.1 h
    exact .unit hn (fun _ => ⟨by simpa using hlead, by simpa using htrail⟩) (ih ht')
  | case16 e cs _ _ c hc ih =>
    obtain ⟨t', ht', rfl⟩ := consRead_eq_ok.1 h
    exact .short hc (ih ht')
  | case19 c cs hquote hend _ _ hescape hcontrol ih =>
    obtain ⟨t', ht', rfl⟩ := consRead_eq_ok.1 h
    refine .plain hquote ?_ (Nat.le_of_not_lt hcontrol) (ih ht')
    intro hc
    cases cs with
    | nil => exact hend hc rfl
    | cons e more => exact hescape e more hc rfl
  | _ => cases h

theorem textBody_plain (paired : Bool) {c : Char} (cs : List Char) (hquote : c ≠ '"')
    (hbackslash : c ≠ '\\') (hcontrol : 0x20 ≤ c.toNat) :
    textBody paired (c :: cs) = consRead c (textBody paired cs) := by
  rw [textBody]
  · rw [if_neg (Nat.not_lt.2 hcontrol)]
  · exact hquote
  all_goals
    intros
    exact hbackslash (by assumption)

theorem textBody_short (paired : Bool) {e c : Char} (cs : List Char) (he : shortEscape? e = some c) :
    textBody paired ('\\' :: e :: cs) = consRead c (textBody paired cs) := by
  have hu : e ≠ 'u' := by
    rintro rfl
    cases he
  rw [textBody]
  · rw [he]
  all_goals
    intros
    exact hu (by assumption)

theorem not_trailing_of_leading {n : Nat} (h : isLeading n = true) : isTrailing n = false := by
  simp only [isLeading, Bool.and_eq_true, decide_eq_true_eq] at h
  simp only [isTrailing, Bool.and_eq_false_iff, decide_eq_false_iff_not]
  omega

theorem textBody_of_textAt {paired : Bool} {cs t rest : List Char} (h : TextAt paired cs t rest) :
    textBody paired cs = .ok (t, rest) := by
  induction h with
  | close rest => rfl
  | plain hquote hbackslash hcontrol _ ih =>
    rw [textBody_plain paired _ hquote hbackslash hcontrol, ih]
    rfl
  | short he _ ih =>
    rw [textBody_short paired _ he, ih]
    rfl
  | unit hn hlone _ ih =>
    rw [textBody]
    simp only [hn]
    cases paired with
    | false =>
      rw [ih]
      rfl
    | true =>
      obtain ⟨hlead, htrail⟩ := hlone rfl
      simp only [hlead, htrail, Bool.not_true, Bool.false_eq_true, ↓reduceIte, ih]
      rfl
  | pair hpaired hn hlead hm htrail _ ih =>
    subst hpaired
    rw [textBody]
    simp only [hn, hm, hlead, not_trailing_of_leading hlead, htrail, Bool.not_true,
      Bool.false_eq_true, ↓reduceIte, ih]
    rfl

/-- The reader of texts reads the texts of the grammar and nothing else. -/
theorem textBody_eq_ok {paired : Bool} {cs t rest : List Char} :
    textBody paired cs = .ok (t, rest) ↔ TextAt paired cs t rest :=
  ⟨textAt_of_textBody, textBody_of_textAt⟩

/-! ### Numbers -/

/-- One digit and all that follow it. -/
def DigitsAt (cs rest : List Char) : Prop :=
  ∃ ds, ds ≠ [] ∧ (∀ c ∈ ds, isDigit c = true) ∧ EndsDigits rest ∧ cs = ds ++ rest

/-- The digits before the point: a zero alone, or digits that do not start with one. -/
inductive WholeAt : List Char → List Char → Prop where
  | zero {rest : List Char} : EndsDigits rest → WholeAt ('0' :: rest) rest
  | digits {cs rest : List Char} : cs.head? ≠ some '0' → DigitsAt cs rest → WholeAt cs rest

/-- The places after a point, if there is one. -/
inductive PlacesAt : List Char → List Char → Prop where
  | none {cs : List Char} : cs.head? ≠ some '.' → PlacesAt cs cs
  | some {cs rest : List Char} : DigitsAt cs rest → PlacesAt ('.' :: cs) rest

/-- An exponent, if there is one. -/
inductive ExponentAt : List Char → List Char → Prop where
  | none {cs : List Char} : cs.head? ≠ some 'e' → cs.head? ≠ some 'E' → ExponentAt cs cs
  | some {e : Char} {cs rest : List Char} : e = 'e' ∨ e = 'E' → DigitsAt (skipSign cs) rest →
      ExponentAt (e :: cs) rest

/-- A number without its sign. -/
def UnsignedAt (cs rest : List Char) : Prop :=
  ∃ ds es, WholeAt cs ds ∧ PlacesAt ds es ∧ ExponentAt es rest

theorem endsDigits_iff {cs : List Char} : EndsDigits cs ↔ cs.head?.any isDigit = false := by
  cases cs with
  | nil => exact iff_of_true endsDigits_nil rfl
  | cons c cs => exact ⟨fun h => h c rfl, fun h => endsDigits_cons h cs⟩

theorem endsDigits_dropWhile (cs : List Char) : EndsDigits (cs.dropWhile isDigit) := by
  intro c hc
  have := List.head?_dropWhile_not isDigit cs
  rw [hc] at this
  simpa using this

theorem skipDigits_eq_ok {cs rest : List Char} :
    skipDigits cs = .ok ((), rest) ↔ DigitsAt cs rest := by
  constructor
  · intro h
    simp only [skipDigits] at h
    split at h
    · rename_i hfirst
      cases h
      refine ⟨cs.takeWhile isDigit, ?_, fun c hc => List.all_eq_true.1 List.all_takeWhile c hc,
        endsDigits_dropWhile cs, List.takeWhile_append_dropWhile.symm⟩
      cases cs with
      | nil => cases hfirst
      | cons c cs =>
        have hc : isDigit c = true := hfirst
        simp [hc]
    · cases h
  · rintro ⟨ds, hne, hdigits, hends, rfl⟩
    obtain ⟨d, ds', rfl⟩ := List.exists_cons_of_ne_nil hne
    have hfirst : ((d :: ds') ++ rest).head?.any isDigit = true := hdigits d List.mem_cons_self
    simp only [skipDigits]
    rw [if_pos hfirst, dropWhile_digits hdigits hends]

theorem skipWhole_eq_ok {cs rest : List Char} :
    skipWhole cs = .ok ((), rest) ↔ WholeAt cs rest := by
  unfold skipWhole
  split
  · rename_i cs
    split
    · rename_i hmore
      refine iff_of_false error_ne_ok fun h => ?_
      cases h with
      | zero hends => exact absurd hmore (Bool.eq_false_iff.1 (endsDigits_iff.1 hends))
      | digits hfirst _ => exact hfirst rfl
    · rename_i hends
      refine ⟨fun h => ?_, fun h => ?_⟩
      · cases h
        exact .zero (endsDigits_iff.2 (Bool.eq_false_iff.2 hends))
      · cases h with
        | zero _ => rfl
        | digits hfirst _ => exact absurd rfl hfirst
  · rename_i hzero
    rw [skipDigits_eq_ok]
    refine ⟨.digits ?_, fun h => ?_⟩
    · intro hfirst
      obtain ⟨more, rfl⟩ := List.head?_eq_some_iff.1 hfirst
      exact hzero more rfl
    · cases h with
      | zero _ => exact absurd rfl (hzero _)
      | digits _ hdigits => exact hdigits

theorem skipPlaces_eq_ok {cs rest : List Char} :
    skipPlaces cs = .ok ((), rest) ↔ PlacesAt cs rest := by
  unfold skipPlaces
  split
  · rw [skipDigits_eq_ok]
    refine ⟨.some, fun h => ?_⟩
    cases h with
    | none hfirst => exact absurd rfl hfirst
    | some hdigits => exact hdigits
  · rename_i hpoint
    refine ⟨fun h => ?_, fun h => ?_⟩
    · cases h
      refine .none fun hfirst => ?_
      obtain ⟨more, rfl⟩ := List.head?_eq_some_iff.1 hfirst
      exact hpoint more rfl
    · cases h with
      | none _ => rfl
      | some _ => exact absurd rfl (hpoint _)

theorem skipExponent_eq_ok {cs rest : List Char} :
    skipExponent cs = .ok ((), rest) ↔ ExponentAt cs rest := by
  unfold skipExponent
  split
  · rw [skipDigits_eq_ok]
    refine ⟨.some (.inl rfl), fun h => ?_⟩
    cases h with
    | none hfirst _ => exact absurd rfl hfirst
    | some _ hdigits => exact hdigits
  · rw [skipDigits_eq_ok]
    refine ⟨.some (.inr rfl), fun h => ?_⟩
    cases h with
    | none _ hfirst => exact absurd rfl hfirst
    | some _ hdigits => exact hdigits
  · rename_i hsmall hcapital
    refine ⟨fun h => ?_, fun h => ?_⟩
    · cases h
      refine .none (fun hfirst => ?_) fun hfirst => ?_
      · obtain ⟨more, rfl⟩ := List.head?_eq_some_iff.1 hfirst
        exact hsmall more rfl
      · obtain ⟨more, rfl⟩ := List.head?_eq_some_iff.1 hfirst
        exact hcapital more rfl
    · cases h with
      | none _ _ => rfl
      | some he _ =>
        rcases he with rfl | rfl
        · exact absurd rfl (hsmall _)
        · exact absurd rfl (hcapital _)

/-- Numbers are passed over as the grammar says. -/
theorem skipNumber_eq_ok {cs rest : List Char} :
    skipNumber cs = .ok ((), rest) ↔ UnsignedAt cs rest := by
  simp only [skipNumber]
  rw [step_bind_eq_ok]
  constructor
  · rintro ⟨⟨⟩, ds, hwhole, h⟩
    obtain ⟨⟨⟩, es, hplaces, hexponent⟩ := step_bind_eq_ok.1 h
    exact ⟨ds, es, skipWhole_eq_ok.1 hwhole, skipPlaces_eq_ok.1 hplaces,
      skipExponent_eq_ok.1 hexponent⟩
  · rintro ⟨ds, es, hwhole, hplaces, hexponent⟩
    exact ⟨(), ds, skipWhole_eq_ok.2 hwhole, step_bind_eq_ok.2
      ⟨(), es, skipPlaces_eq_ok.2 hplaces, skipExponent_eq_ok.2 hexponent⟩⟩

/-! ### Values -/

/-- The character that opens the bracket. -/
def Bracket.opening : Bracket → Char
  | .list => '['
  | .object => '{'

/-- A key with its colon, and the characters of the key. -/
def KeyAt (paired : Bool) (cs t rest : List Char) : Prop :=
  ∃ ds es, skipBlanks cs = '"' :: ds ∧ TextAt paired ds t es ∧ skipBlanks es = ':' :: rest

/-- A value that is neither a list nor an object. -/
inductive SingleAt : List Char → List Char → Prop where
  | word {w : String} {rest : List Char} : w = "null" ∨ w = "true" ∨ w = "false" →
      SingleAt (w.toList ++ rest) rest
  | text {cs t rest : List Char} : TextAt false cs t rest → SingleAt ('"' :: cs) rest
  | unsigned {cs rest : List Char} : UnsignedAt cs rest → SingleAt cs rest
  | negative {cs rest : List Char} : UnsignedAt cs rest → SingleAt ('-' :: cs) rest

mutual

/-- A value of any shape. -/
inductive ValueAt : List Char → List Char → Prop where
  | single {cs rest : List Char} : SingleAt (skipBlanks cs) rest → ValueAt cs rest
  | empty {b : Bracket} {cs ds rest : List Char} : skipBlanks cs = b.opening :: ds →
      skipBlanks ds = b.closing :: rest → ValueAt cs rest
  | filled {b : Bracket} {cs ds es rest : List Char} : skipBlanks cs = b.opening :: ds →
      MemberAt b ds es → RemainderAt b es rest → ValueAt cs rest

/-- A member of a list or of an object. -/
inductive MemberAt : Bracket → List Char → List Char → Prop where
  | element {cs rest : List Char} : ValueAt cs rest → MemberAt .list cs rest
  | entry {cs t ds rest : List Char} : KeyAt false cs t ds → ValueAt ds rest →
      MemberAt .object cs rest

/-- What follows a member, up to and with the end of the bracket. -/
inductive RemainderAt : Bracket → List Char → List Char → Prop where
  | close {b : Bracket} {cs rest : List Char} : skipBlanks cs = b.closing :: rest →
      RemainderAt b cs rest
  | more {b : Bracket} {cs ds es rest : List Char} : skipBlanks cs = ',' :: ds →
      MemberAt b ds es → RemainderAt b es rest → RemainderAt b cs rest

end

end Roster.Json
