import Roster.Email
import Roster.Proofs.Json.Printed
import Roster.Proofs.Text.Lowercase
import Roster.Proofs.Text.Trimming

/-!
# Addresses and their normal form

Which text an address has is decided by the normal form of what was typed, and nothing else of it. An
address is its own normal form, so it is read back from its own text and from its JSON text.

* `ofText_eq_ok` says which texts denote an address, `normalForm_of_alike` which have one normal form.
* `Parts` is what stands on both sides of the at sign; `exists_parts` says that every address has this
  shape.
* `addresses_normal` puts it together.
-/

namespace Roster

open Roster.Json Roster.Net Roster.Text

namespace Email

/-! ### Texts that denote addresses -/

theorem ofText_of_normalForm {a b : String} (h : normalForm a = normalForm b) :
    ofText a = ofText b := by
  simp only [ofText, h]

theorem ofText_eq_ok {s : String} {e : Email} : ofText s = .ok e ↔ e.text = normalForm s := by
  constructor
  · intro h
    simp only [ofText] at h
    by_cases hempty : (normalForm s).isEmpty = true
    · rw [if_pos hempty] at h
      cases h
    · rw [if_neg hempty] at h
      by_cases haddress : isAddress (normalForm s).toList = true
      · rw [dif_pos haddress] at h
        exact (congrArg Email.text (Except.ok.inj h)).symm
      · rw [dif_neg haddress] at h
        cases h
  · intro h
    have hsame : normalForm s = normalForm e.text := by rw [h, normalForm_normalForm]
    rw [ofText_of_normalForm hsame, ofText_text]

theorem eq_of_text {a b : Email} (h : a.text = b.text) : a = b := by
  obtain ⟨text, _, _⟩ := a
  subst h
  rfl

/-- A text is an address if its normal form is one. -/
theorem exists_text_iff {s : String} :
    (∃ e : Email, e.text = normalForm s) ↔ isAddress (normalForm s).toList = true :=
  ⟨fun ⟨e, h⟩ => h ▸ e.isAddress_text, fun h => ⟨⟨normalForm s, h, normalForm_normalForm s⟩, rfl⟩⟩

/-- Blanks around an address and the case of its ASCII letters make no difference to its normal form. -/
theorem normalForm_of_alike {a b : String}
    (h : (trim a.toList).map Char.toLower = (trim b.toList).map Char.toLower) :
    normalForm a = normalForm b := by
  simp only [normalForm, lowered, trimmed, String.toList_ofList]
  rw [← lower_map_toLower (trim a.toList), h, lower_map_toLower]

theorem reads_json (e : Email) : Reads reader 0 e.json e := by
  refine Reads.check (reads_textAs _ _) ?_
  rw [ofText_text]

/-! ### The normal form leaves itself alone -/

theorem trimmed_text (e : Email) : trimmed e.text = e.text := by
  rw [← e.normalForm_text]
  simp only [normalForm, lowered, trimmed, String.toList_ofList]
  rw [trim_lower_trim]

theorem lowered_text (e : Email) : lowered e.text = e.text := by
  have h := e.normalForm_text
  rwa [normalForm, e.trimmed_text] at h

theorem settled_of_mem_text (e : Email) {c : Char} (hc : c ∈ e.text.toList) : Settled c := by
  rw [← e.lowered_text, lowered, String.toList_ofList] at hc
  exact settled_of_mem_lowerAfter hc

/-! ### Both sides of the at sign -/

/-- An address in two parts: what stands before its at sign and what stands after it. -/
structure Parts (e : Email) (before host : List Char) : Prop where
  text_eq : e.text.toList = before ++ '@' :: host
  at_once : e.text.toList.count '@' = 1
  before_nonempty : 1 ≤ before.length
  before_short : before.length ≤ 64
  before_allowed : ∀ c ∈ before, isPlain c = true ∨ c ∈ localSigns
  before_small : ∀ c ∈ before, c.isUpper = false
  host_nonempty : host ≠ []
  host_short : host.length ≤ 255
  host_eq : e.host = String.ofList host

theorem isHost_nil : isHost [] = false := by decide +kernel

theorem exists_parts (e : Email) : ∃ before host, e.Parts before host := by
  have haddress := e.isAddress_text
  simp only [isAddress] at haddress
  cases hsplit : splitLast? '@' e.text.toList with
  | none =>
    rw [hsplit] at haddress
    cases haddress
  | some parts =>
    obtain ⟨before, host⟩ := parts
    rw [hsplit] at haddress
    simp only [Bool.and_eq_true, isLocalPart, Bool.not_eq_true', List.isEmpty_eq_false_iff,
      decide_eq_true_eq, List.all_eq_true, Bool.or_eq_true, List.contains_iff_mem] at haddress
    obtain ⟨⟨⟨hnonempty, hshort⟩, hallowed⟩, hhost⟩ := haddress
    obtain ⟨htext, hafter⟩ := splitLast?_eq_some hsplit
    have hbefore : '@' ∉ before := by
      intro hat
      have hsign := hallowed '@' hat
      revert hsign
      decide
    refine ⟨before, host, htext, ?_, List.length_pos_iff.2 hnonempty, hshort, hallowed, ?_, ?_, ?_, ?_⟩
    · rw [htext, List.count_append, List.count_cons, List.count_eq_zero.2 hbefore,
        List.count_eq_zero.2 hafter]
      rfl
    · intro c hc
      exact isUpper_of_settled (e.settled_of_mem_text (htext ▸ List.mem_append_left _ hc))
    · rintro rfl
      rw [isHost_nil] at hhost
      cases hhost
    · simp only [isHost, Bool.and_eq_true, decide_eq_true_eq] at hhost
      exact hhost.1
    · simp only [Email.host]
      rw [hsplit]

end Email

/-- **Addresses are in normal form.**  An address that is accepted is accepted again as it stands, and is
what its JSON text is read as. Trimming and lower case leave it alone; it has one at sign, before it up to
64 allowed characters without capitals and after it the host. Blanks around a text and the case of its
ASCII letters make no difference to what comes of it, be it an address or an error. -/
theorem addresses_normal (s : String) :
    (∀ e, Email.ofText s = .ok e →
      Email.ofText e.text = .ok e ∧ Email.reader.run (String.ofList e.json) = .ok e ∧
        trimmed e.text = e.text ∧ lowered e.text = e.text ∧ ∃ before host, e.Parts before host) ∧
    ∀ before t after : String, t.toList.map Char.toLower = s.toList.map Char.toLower →
      (∀ c ∈ before.toList, isBlank c = true) → (∀ c ∈ after.toList, isBlank c = true) →
      Email.ofText (before ++ t ++ after) = Email.ofText s := by
  refine ⟨fun e _ => ⟨e.ofText_text, (e.reads_json.mono (Nat.zero_le _)).run, e.trimmed_text,
    e.lowered_text, e.exists_parts⟩, ?_⟩
  intro before t after hcase hbefore hafter
  apply Email.ofText_of_normalForm
  apply Email.normalForm_of_alike
  calc (trim (before ++ t ++ after).toList).map Char.toLower
      = (trim t.toList).map Char.toLower := by
        rw [String.toList_append, String.toList_append, trim_between hbefore hafter]
    _ = trim (s.toList.map Char.toLower) := by rw [← trim_map_toLower, hcase]
    _ = (trim s.toList).map Char.toLower := trim_map_toLower _

theorem addresses_normal_in_trial :
    ∃ e, Email.ofText "\u00A0Ann+1@X.com" = .ok e ∧ e.text = "ann+1@x.com" ∧
      Email.ofText e.text = .ok e ∧ Email.reader.run (String.ofList e.json) = .ok e ∧
      Email.ofText ("\u2003" ++ "\u00A0aNN+1@x.COM" ++ "\x0a") = .ok e := by
  obtain ⟨e, he⟩ := Email.exists_text_iff.2
    (show isAddress (Email.normalForm "\u00A0Ann+1@X.com").toList = true by decide +kernel)
  have hform : Email.normalForm "\u00A0Ann+1@X.com" = "ann+1@x.com" := by decide +kernel
  have hok := Email.ofText_eq_ok.2 he
  obtain ⟨haccepted, halike⟩ := addresses_normal "\u00A0Ann+1@X.com"
  obtain ⟨hagain, hread, -⟩ := haccepted e hok
  refine ⟨e, hok, he.trans hform, hagain, hread, ?_⟩
  have hbefore : ∀ c ∈ "\u2003".toList, isBlank c = true := List.all_eq_true.1 (by decide +kernel)
  have hafter : ∀ c ∈ "\x0a".toList, isBlank c = true := List.all_eq_true.1 (by decide +kernel)
  rw [halike "\u2003" "\u00A0aNN+1@x.COM" "\x0a" (by decide) hbefore hafter, hok]

end Roster
