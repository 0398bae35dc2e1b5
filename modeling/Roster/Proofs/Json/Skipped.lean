import Roster.Proofs.Json.Grammar

/-!
# Values that are passed over

A value of an unknown field is passed over with the open brackets as the only state, one part of the text
after another. What is passed over in this way is exactly a value of the grammar.

* `Closes` says what a text has to hold for the brackets that are open. By `value_of_skipFrom` a value
  and then the ends of these brackets have been passed over.
* `Spends` compares two places of a text; since each step takes up text, as many steps as there are
  characters are enough.
* `skip_eq_ok` is the result for one value.
-/

namespace Roster.Json

open Roster.Text

/-! ### Single values -/

theorem word_eq_ok {letters cs rest : List Char} :
    word letters cs = .ok ((), rest) ↔ cs = letters ++ rest := by
  induction letters generalizing cs with
  | nil =>
    refine ⟨fun h => ?_, fun h => ?_⟩
    · cases h
      rfl
    · rw [h]
      rfl
  | cons c letters ih =>
    cases cs with
    | nil => exact iff_of_false error_ne_ok fun h => nomatch h
    | cons d cs =>
      simp only [word]
      split
      · rename_i heq
        rw [ih, heq, List.cons_append, List.cons.injEq, and_iff_right rfl]
      · rename_i hne
        exact iff_of_false error_ne_ok fun h => hne (List.cons.inj h).1.symm

theorem UnsignedAt.digit {cs rest : List Char} (h : UnsignedAt cs rest) :
    ∃ d ds, cs = d :: ds ∧ isDigit d = true := by
  obtain ⟨_, _, hwhole, _⟩ := h
  cases hwhole with
  | zero _ => exact ⟨'0', _, rfl, by decide⟩
  | digits _ hdigits =>
    obtain ⟨ds, hne, hall, _, rfl⟩ := hdigits
    obtain ⟨d, ds, rfl⟩ := List.exists_cons_of_ne_nil hne
    exact ⟨d, _, rfl, hall d List.mem_cons_self⟩

theorem skipText_eq_ok {cs rest : List Char} :
    skipText cs = .ok ((), rest) ↔ ∃ t, TextAt false cs t rest := by
  simp only [skipText, ← textBody_eq_ok]
  cases h : textBody false cs with
  | error e => exact iff_of_false error_ne_ok fun ⟨_, h⟩ => nomatch h
  | ok r =>
    refine ⟨fun h => ?_, fun ⟨t, h⟩ => ?_⟩
    · cases h
      exact ⟨r.1, rfl⟩
    · cases h
      rfl

/-- A single value is passed over, and what follows it is judged. -/
theorem skipPart_of_single {cs rest : List Char} (h : SingleAt (skipBlanks cs) rest)
    (outer : List Bracket) : skipPart outer cs = closeBrackets outer rest := by
  have hafter : ∀ {scan : Scan Unit} {ds : List Char}, scan ds = .ok ((), rest) →
      (do scan; closeBrackets outer : Scan (List Bracket)) ds = closeBrackets outer rest :=
    fun hscan => bind_of_ok hscan _
  generalize hds : skipBlanks cs = ds at h
  simp only [skipPart, hds]
  cases h with
  | word hw =>
    rcases hw with rfl | rfl | rfl
    · exact hafter (word_eq_ok.2 rfl)
    · exact hafter (word_eq_ok.2 rfl)
    · exact hafter (word_eq_ok.2 rfl)
  | text htext => exact hafter (skipText_eq_ok.2 ⟨_, htext⟩)
  | negative hnumber => exact hafter (skipNumber_eq_ok.2 hnumber)
  | unsigned hnumber =>
    obtain ⟨d, ds, rfl, hd⟩ := hnumber.digit
    split
    case h_9 c more _ _ _ _ _ _ _ heq =>
      obtain ⟨rfl, rfl⟩ := List.cons.inj heq
      rw [if_pos hd]
      exact hafter (skipNumber_eq_ok.2 hnumber)
    all_goals
      rename_i heq
      cases heq
      try exact absurd hd (by decide)

theorem skipPart_opening {b : Bracket} {cs ds : List Char} (h : skipBlanks cs = b.opening :: ds)
    (outer : List Bracket) : skipPart outer cs = afterOpening b outer ds := by
  simp only [skipPart, h]
  cases b <;> rfl

/-- A value that can be passed over is a single one or opens a bracket. -/
theorem skipPart_cases {outer bs : List Bracket} {cs rest : List Char}
    (h : skipPart outer cs = .ok (bs, rest)) :
    (∃ ds, SingleAt (skipBlanks cs) ds ∧ closeBrackets outer ds = .ok (bs, rest)) ∨
      ∃ b ds, skipBlanks cs = b.opening :: ds ∧ afterOpening b outer ds = .ok (bs, rest) := by
  have hafter : ∀ {scan : Scan Unit} {es : List Char},
      (do scan; closeBrackets outer : Scan (List Bracket)) es = .ok (bs, rest) →
        ∃ ds, scan es = .ok ((), ds) ∧ closeBrackets outer ds = .ok (bs, rest) := by
    intro scan es hscan
    obtain ⟨⟨⟩, ds, hds, hclose⟩ := step_bind_eq_ok.1 hscan
    exact ⟨ds, hds, hclose⟩
  generalize hfirst : skipBlanks cs = fs
  simp only [skipPart, hfirst] at h
  split at h
  · cases h
  · obtain ⟨ds, hword, hclose⟩ := hafter h
    rw [word_eq_ok.1 hword]
    exact .inl ⟨ds, .word (w := "null") (.inl rfl), hclose⟩
  · obtain ⟨ds, hword, hclose⟩ := hafter h
    rw [word_eq_ok.1 hword]
    exact .inl ⟨ds, .word (w := "true") (.inr (.inl rfl)), hclose⟩
  · obtain ⟨ds, hword, hclose⟩ := hafter h
    rw [word_eq_ok.1 hword]
    exact .inl ⟨ds, .word (w := "false") (.inr (.inr rfl)), hclose⟩
  · obtain ⟨ds, htext, hclose⟩ := hafter h
    obtain ⟨t, ht⟩ := skipText_eq_ok.1 htext
    exact .inl ⟨ds, .text ht, hclose⟩
  · exact .inr ⟨.list, _, rfl, h⟩
  · exact .inr ⟨.object, _, rfl, h⟩
  · obtain ⟨ds, hnumber, hclose⟩ := hafter h
    exact .inl ⟨ds, .negative (skipNumber_eq_ok.1 hnumber), hclose⟩
  · split at h
    · obtain ⟨ds, hnumber, hclose⟩ := hafter h
      exact .inl ⟨ds, .unsigned (skipNumber_eq_ok.1 hnumber), hclose⟩
    · cases h

/-! ### Brackets -/

/-- What a text has to hold for the brackets that are open: a remainder for each, the innermost first. -/
inductive Closes : List Bracket → List Char → List Char → Prop where
  | nil (cs : List Char) : Closes [] cs cs
  | cons {b : Bracket} {outer : List Bracket} {cs ds rest : List Char} :
      RemainderAt b cs ds → Closes outer ds rest → Closes (b :: outer) cs rest

/-- What a text has to hold after a step: nothing if no bracket is open any more, otherwise a member and
what closes the brackets. -/
def Awaits : List Bracket → List Char → List Char → Prop
  | [], cs, rest => cs = rest
  | b :: outer, cs, rest => ∃ ds, MemberAt b cs ds ∧ Closes (b :: outer) ds rest

theorem closes_of_closeBrackets {outer bs : List Bracket} {cs ds rest : List Char}
    (h : closeBrackets outer cs = .ok (bs, ds)) (hawaits : Awaits bs ds rest) :
    Closes outer cs rest := by
  induction outer generalizing cs with
  | nil =>
    cases h
    cases hawaits
    exact .nil _
  | cons b outer ih =>
    simp only [closeBrackets] at h
    split at h
    · cases h
    · rename_i c more heq
      split at h
      · rename_i hcomma
        cases h
        obtain ⟨es, hmember, hcloses⟩ := hawaits
        cases hcloses with
        | cons hremainder houter => exact .cons (.more (hcomma ▸ heq) hmember hremainder) houter
      · split at h
        · rename_i hclosing
          exact .cons (.close (hclosing ▸ heq)) (ih h)
        · cases h

theorem skipBlanks_skipBlanks (cs : List Char) : skipBlanks (skipBlanks cs) = skipBlanks cs := by
  induction cs with
  | nil => rfl
  | cons c cs ih =>
    by_cases hspace : isSpace c = true
    · have hdrop : skipBlanks (c :: cs) = skipBlanks cs := List.dropWhile_cons_of_pos hspace
      rw [hdrop, ih]
    · have hkeep : skipBlanks (c :: cs) = c :: cs := List.dropWhile_cons_of_neg hspace
      rw [hkeep, hkeep]

theorem skipBlanks_append {cs : List Char} (h : skipBlanks cs ≠ []) (more : List Char) :
    skipBlanks (cs ++ more) = skipBlanks cs ++ more := by
  simp only [skipBlanks] at h ⊢
  rw [List.dropWhile_append, if_neg (by rwa [List.isEmpty_iff])]

/-- White space in front of a member belongs to it. -/
theorem memberAt_skipBlanks {b : Bracket} {cs rest : List Char} :
    MemberAt b (skipBlanks cs) rest ↔ MemberAt b cs rest := by
  have hvalue : ValueAt (skipBlanks cs) rest ↔ ValueAt cs rest := by
    constructor <;> intro h <;> cases h with
    | single hsingle => exact .single (by simpa [skipBlanks_skipBlanks] using hsingle)
    | empty hopening hclosing =>
      exact .empty (by simpa [skipBlanks_skipBlanks] using hopening) hclosing
    | filled hopening hmember hremainder =>
      exact .filled (by simpa [skipBlanks_skipBlanks] using hopening) hmember hremainder
  have hkey : ∀ {t ds}, KeyAt false (skipBlanks cs) t ds ↔ KeyAt false cs t ds := by
    simp [KeyAt, skipBlanks_skipBlanks]
  constructor
  · intro h
    cases h with
    | element h => exact .element (hvalue.1 h)
    | entry h h' => exact .entry (hkey.1 h) h'
  · intro h
    cases h with
    | element h => exact .element (hvalue.2 h)
    | entry h h' => exact .entry (hkey.2 h) h'

theorem value_of_afterOpening {b : Bracket} {outer bs : List Bracket} {cs ds es rest : List Char}
    (hopening : skipBlanks cs = b.opening :: ds) (h : afterOpening b outer ds = .ok (bs, es))
    (hawaits : Awaits bs es rest) : ∃ fs, ValueAt cs fs ∧ Closes outer fs rest := by
  simp only [afterOpening] at h
  split at h
  · cases h
  · rename_i c more heq
    split at h
    · rename_i hclosing
      exact ⟨more, .empty hopening (hclosing ▸ heq), closes_of_closeBrackets h hawaits⟩
    · cases h
      obtain ⟨fs, hmember, hcloses⟩ := hawaits
      rw [← heq] at hmember
      cases hcloses with
      | cons hremainder houter =>
        exact ⟨_, .filled hopening (memberAt_skipBlanks.1 hmember) hremainder, houter⟩

theorem value_of_skipPart {outer bs : List Bracket} {cs ds rest : List Char}
    (h : skipPart outer cs = .ok (bs, ds)) (hawaits : Awaits bs ds rest) :
    ∃ es, ValueAt cs es ∧ Closes outer es rest := by
  rcases skipPart_cases h with ⟨es, hsingle, hclose⟩ | ⟨b, es, hopening, hafter⟩
  · exact ⟨es, .single hsingle, closes_of_closeBrackets hclose hawaits⟩
  · exact value_of_afterOpening hopening hafter hawaits

theorem colon_eq_ok {cs rest : List Char} :
    colon cs = .ok ((), rest) ↔ skipBlanks cs = ':' :: rest := by
  unfold colon
  split
  · rename_i heq
    exact iff_of_false error_ne_ok fun h => nomatch heq.symm.trans h
  · rename_i heq
    rw [heq]
    refine ⟨fun h => ?_, fun h => ?_⟩
    · cases h
      rfl
    · cases h
      rfl
  · rename_i hcolon
    exact iff_of_false error_ne_ok fun h => hcolon _ h

theorem skipKey_eq_ok {cs rest : List Char} :
    skipKey cs = .ok ((), rest) ↔ ∃ t, KeyAt false cs t rest := by
  simp only [skipKey, KeyAt]
  cases hfirst : skipBlanks cs with
  | nil => exact iff_of_false error_ne_ok fun ⟨_, _, _, h, _⟩ => nomatch h
  | cons c ds =>
    by_cases hquote : c = '"'
    · subst hquote
      show (do skipText; colon : Scan Unit) ds = _ ↔ _
      rw [step_bind_eq_ok]
      constructor
      · rintro ⟨⟨⟩, es, htext, hcolon⟩
        obtain ⟨t, ht⟩ := skipText_eq_ok.1 htext
        exact ⟨t, ds, es, rfl, ht, colon_eq_ok.1 hcolon⟩
      · rintro ⟨t, _, es, heq, ht, hcolon⟩
        cases heq
        exact ⟨(), es, skipText_eq_ok.2 ⟨t, ht⟩, colon_eq_ok.2 hcolon⟩
    · refine iff_of_false (fun h => ?_) fun ⟨_, _, _, h, _⟩ => hquote (List.cons.inj h).1
      split at h
      · cases h
      · rename_i heq
        exact hquote (List.cons.inj heq).1
      · cases h

/-- How the passing over goes on after a step. -/
def resume (fuel : Nat) : List Bracket → Scan Unit
  | [] => return ()
  | .list :: outer => skipFrom fuel (.list :: outer)
  | .object :: outer => do
    skipKey
    skipFrom fuel (.object :: outer)

theorem skipFrom_succ (fuel : Nat) (outer : List Bracket) :
    skipFrom (fuel + 1) outer = skipPart outer >>= resume fuel := by
  simp only [skipFrom]
  refine congrArg (skipPart outer >>= ·) (funext fun bs => ?_)
  match bs with
  | [] => rfl
  | .list :: outer => rfl
  | .object :: outer => rfl

/-- What is passed over is a value, and what closes the brackets around it. -/
theorem value_of_skipFrom {fuel : Nat} {outer : List Bracket} {cs rest : List Char}
    (h : skipFrom fuel outer cs = .ok ((), rest)) :
    ∃ ds, ValueAt cs ds ∧ Closes outer ds rest := by
  induction fuel generalizing outer cs with
  | zero => cases h
  | succ fuel ih =>
    rw [skipFrom_succ] at h
    obtain ⟨bs, ds, hpart, hresume⟩ := step_bind_eq_ok.1 h
    refine value_of_skipPart hpart ?_
    match bs with
    | [] =>
      cases hresume
      rfl
    | .list :: outer =>
      obtain ⟨es, hvalue, hcloses⟩ := ih hresume
      exact ⟨es, .element hvalue, hcloses⟩
    | .object :: outer =>
      obtain ⟨⟨⟩, fs, hkey, hrest⟩ := step_bind_eq_ok.1 hresume
      obtain ⟨t, ht⟩ := skipKey_eq_ok.1 hkey
      obtain ⟨es, hvalue, hcloses⟩ := ih hrest
      exact ⟨es, .entry ht hvalue, hcloses⟩

/-! ### Passing over what the grammar allows -/

theorem length_skipBlanks_le (cs : List Char) : (skipBlanks cs).length ≤ cs.length :=
  (List.dropWhile_suffix isSpace).length_le

theorem length_lt_of_skipBlanks {cs ds : List Char} {c : Char} (h : skipBlanks cs = c :: ds) :
    ds.length < cs.length := by
  have hle := length_skipBlanks_le cs
  rw [h, List.length_cons] at hle
  omega

theorem TextAt.length_lt {paired : Bool} {cs t rest : List Char} (h : TextAt paired cs t rest) :
    rest.length < cs.length := by
  induction h with
  | close => simp
  | plain _ _ _ _ ih =>
    simp only [List.length_cons]
    omega
  | short _ _ ih =>
    simp only [List.length_cons]
    omega
  | unit _ _ _ ih =>
    simp only [List.length_cons]
    omega
  | pair _ _ _ _ _ _ ih =>
    simp only [List.length_cons]
    omega

theorem KeyAt.length_lt {paired : Bool} {cs t rest : List Char} (h : KeyAt paired cs t rest) :
    rest.length < cs.length := by
  obtain ⟨ds, es, hquote, htext, hcolon⟩ := h
  have hds := length_lt_of_skipBlanks hquote
  have hes := htext.length_lt
  have hrest := length_lt_of_skipBlanks hcolon
  omega

theorem DigitsAt.length_lt {cs rest : List Char} (h : DigitsAt cs rest) :
    rest.length < cs.length := by
  obtain ⟨ds, hne, _, _, rfl⟩ := h
  have := List.length_pos_iff.2 hne
  rw [List.length_append]
  omega

theorem UnsignedAt.length_lt {cs rest : List Char} (h : UnsignedAt cs rest) :
    rest.length < cs.length := by
  obtain ⟨ds, es, hwhole, hplaces, hexponent⟩ := h
  have hds : ds.length < cs.length := by
    cases hwhole with
    | zero _ => simp
    | digits _ hdigits => exact hdigits.length_lt
  have hes : es.length ≤ ds.length := by
    cases hplaces with
    | none _ => exact Nat.le_refl _
    | some hdigits => exact Nat.le_of_lt (Nat.lt_trans hdigits.length_lt (by simp))
  have hrest : rest.length ≤ es.length := by
    cases hexponent with
    | none _ _ => exact Nat.le_refl _
    | @some e cs rest _ hdigits =>
      have hsign : (skipSign cs).length ≤ cs.length := by
        unfold skipSign
        split <;> simp
      have := hdigits.length_lt
      rw [List.length_cons]
      omega
  omega

theorem SingleAt.length_lt {cs rest : List Char} (h : SingleAt cs rest) :
    rest.length < cs.length := by
  cases h with
  | word hw =>
    rcases hw with rfl | rfl | rfl <;>
      exact Nat.lt_of_lt_of_eq (Nat.lt_add_of_pos_left (by decide)) List.length_append.symm
  | text htext => exact Nat.lt_trans htext.length_lt (by simp)
  | unsigned hnumber => exact hnumber.length_lt
  | negative hnumber => exact Nat.lt_trans hnumber.length_lt (by simp)

/-- What is in front of a member does not close the bracket. -/
theorem MemberAt.not_closing {b : Bracket} {cs rest : List Char} (h : MemberAt b cs rest) :
    ∃ c ds, skipBlanks cs = c :: ds ∧ c ≠ b.closing := by
  cases h with
  | entry hkey _ =>
    obtain ⟨ds, _, hquote, _⟩ := hkey
    exact ⟨_, ds, hquote, by decide⟩
  | element hvalue =>
    cases hvalue with
    | @empty b _ ds _ hopening _ => exact ⟨_, ds, hopening, by cases b <;> decide⟩
    | @filled b _ ds _ _ hopening _ _ => exact ⟨_, ds, hopening, by cases b <;> decide⟩
    | single hsingle =>
      generalize skipBlanks cs = ds at hsingle
      cases hsingle with
      | word hw => rcases hw with rfl | rfl | rfl <;> exact ⟨_, _, rfl, by decide⟩
      | text _ => exact ⟨_, _, rfl, by decide⟩
      | negative _ => exact ⟨_, _, rfl, by decide⟩
      | unsigned hnumber =>
        obtain ⟨d, more, rfl, hd⟩ := hnumber.digit
        refine ⟨d, more, rfl, ?_⟩
        rintro rfl
        exact absurd hd (by decide)

theorem closeBrackets_closing {b : Bracket} {cs rest : List Char}
    (h : skipBlanks cs = b.closing :: rest) (outer : List Bracket) :
    closeBrackets (b :: outer) cs = closeBrackets outer rest := by
  have hcomma : b.closing ≠ ',' := by cases b <;> decide
  simp only [closeBrackets, h, hcomma, ↓reduceIte]

theorem closeBrackets_comma {cs rest : List Char} (h : skipBlanks cs = ',' :: rest) (b : Bracket)
    (outer : List Bracket) : closeBrackets (b :: outer) cs = .ok (b :: outer, rest) := by
  simp only [closeBrackets, h, ↓reduceIte]

theorem afterOpening_closing {b : Bracket} {cs rest : List Char}
    (h : skipBlanks cs = b.closing :: rest) (outer : List Bracket) :
    afterOpening b outer cs = closeBrackets outer rest := by
  simp only [afterOpening, h, ↓reduceIte]

theorem afterOpening_member {b : Bracket} {cs rest : List Char} (h : MemberAt b cs rest)
    (outer : List Bracket) : afterOpening b outer cs = .ok (b :: outer, skipBlanks cs) := by
  obtain ⟨c, ds, heq, hc⟩ := h.not_closing
  simp only [afterOpening, heq]
  rw [if_neg hc]

theorem skipFrom_skipBlanks (fuel : Nat) (outer : List Bracket) (cs : List Char) :
    skipFrom fuel outer (skipBlanks cs) = skipFrom fuel outer cs := by
  cases fuel with
  | zero => rfl
  | succ fuel =>
    have hpart : skipPart outer (skipBlanks cs) = skipPart outer cs := by
      simp only [skipPart, skipBlanks_skipBlanks]
    rw [skipFrom_succ]
    exact bind_of_same hpart _

theorem resume_skipBlanks (fuel : Nat) (b : Bracket) (outer : List Bracket) (cs : List Char) :
    resume fuel (b :: outer) (skipBlanks cs) = resume fuel (b :: outer) cs := by
  cases b with
  | list => exact skipFrom_skipBlanks fuel _ cs
  | object =>
    have hkey : skipKey (skipBlanks cs) = skipKey cs := by
      simp only [skipKey, skipBlanks_skipBlanks]
    exact bind_of_same hkey _

/-- Between two places of a text the passing over takes no more steps than there are characters. -/
def Spends (cs rest : List Char) (before after : Nat → Scan Unit) : Prop :=
  ∃ n, n + rest.length ≤ cs.length ∧ ∀ fuel, before (fuel + n) cs = after fuel rest

theorem Spends.part {cs rest : List Char} {outer : List Bracket} (hlength : rest.length < cs.length)
    (h : skipPart outer cs = closeBrackets outer rest) :
    Spends cs rest (skipFrom · outer) (closeBrackets outer >>= resume ·) := by
  refine ⟨1, by omega, fun fuel => ?_⟩
  show skipFrom (fuel + 1) outer cs = _
  rw [skipFrom_succ]
  exact bind_of_same h _

theorem Spends.trans {cs ds es : List Char} {x y z : Nat → Scan Unit} (h : Spends cs ds x y)
    (h' : Spends ds es y z) : Spends cs es x z := by
  obtain ⟨m, hm, hxy⟩ := h
  obtain ⟨n, hn, hyz⟩ := h'
  refine ⟨n + m, by omega, fun fuel => ?_⟩
  rw [← Nat.add_assoc, hxy, hyz]

mutual

theorem ValueAt.spends {cs rest : List Char} (outer : List Bracket) (h : ValueAt cs rest) :
    Spends cs rest (skipFrom · outer) (closeBrackets outer >>= resume ·) := by
  match h with
  | .single hsingle =>
    have hlength := Nat.lt_of_lt_of_le hsingle.length_lt (length_skipBlanks_le cs)
    exact .part hlength (skipPart_of_single hsingle outer)
  | .empty hopening hclosing =>
    have hlength := Nat.lt_trans (length_lt_of_skipBlanks hclosing) (length_lt_of_skipBlanks hopening)
    refine .part hlength ?_
    rw [skipPart_opening hopening, afterOpening_closing hclosing]
  | @ValueAt.filled b _ ds _ _ hopening hmember hremainder =>
    obtain ⟨n, hn, hrest⟩ := (hmember.spends outer).trans (hremainder.spends outer)
    have hlength := length_lt_of_skipBlanks hopening
    refine ⟨n + 1, by omega, fun fuel => ?_⟩
    have hpart : skipPart outer cs = .ok (b :: outer, skipBlanks ds) := by
      rw [skipPart_opening hopening, afterOpening_member hmember]
    show skipFrom (fuel + n + 1) outer cs = _
    rw [skipFrom_succ, bind_of_ok hpart, resume_skipBlanks]
    exact hrest fuel

theorem MemberAt.spends {b : Bracket} {cs rest : List Char} (outer : List Bracket)
    (h : MemberAt b cs rest) :
    Spends cs rest (resume · (b :: outer)) (closeBrackets (b :: outer) >>= resume ·) := by
  match h with
  | .element hvalue => exact hvalue.spends (.list :: outer)
  | .entry (t := t) hkey hvalue =>
    obtain ⟨n, hn, hrest⟩ := hvalue.spends (.object :: outer)
    have hlength := hkey.length_lt
    refine ⟨n, by omega, fun fuel => ?_⟩
    rw [← hrest fuel]
    exact bind_of_ok (skipKey_eq_ok.2 ⟨t, hkey⟩) _

theorem RemainderAt.spends {b : Bracket} {cs rest : List Char} (outer : List Bracket)
    (h : RemainderAt b cs rest) :
    Spends cs rest (closeBrackets (b :: outer) >>= resume ·) (closeBrackets outer >>= resume ·) := by
  match h with
  | .close hclosing =>
    have hlength := length_lt_of_skipBlanks hclosing
    exact ⟨0, by omega, fun fuel => bind_of_same (closeBrackets_closing hclosing outer) _⟩
  | .more hcomma hmember hremainder =>
    obtain ⟨n, hn, hrest⟩ := (hmember.spends outer).trans (hremainder.spends outer)
    have hlength := length_lt_of_skipBlanks hcomma
    refine ⟨n, by omega, fun fuel => ?_⟩
    rw [← hrest fuel]
    exact bind_of_ok (closeBrackets_comma hcomma b outer) _

end

theorem ValueAt.length_le {cs rest : List Char} (h : ValueAt cs rest) : rest.length ≤ cs.length := by
  obtain ⟨n, hn, _⟩ := h.spends []
  exact Nat.le_trans (Nat.le_add_left _ n) hn

/-- **Exactly the values of the grammar are passed over.** -/
theorem skip_eq_ok {cs rest : List Char} : skip cs = .ok ((), rest) ↔ ValueAt cs rest := by
  constructor
  · intro h
    obtain ⟨ds, hvalue, hcloses⟩ := value_of_skipFrom h
    cases hcloses
    exact hvalue
  · intro h
    obtain ⟨n, hle, hskip⟩ := h.spends []
    have hfuel : cs.length + 1 = (cs.length + 1 - n) + n := by omega
    simp only [skip]
    rw [hfuel]
    exact hskip _

end Roster.Json
