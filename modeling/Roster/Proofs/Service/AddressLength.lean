import Roster.Proofs.Service.Exactness
import Roster.Proofs.Service.NormalForm

/-!
# How long stored addresses are

The limit on an address is checked on the text as it was typed, and what is stored is its normal form.
Lower case makes two characters of a dotted capital I, so a stored address can be longer than the text it
came of, and longer than the limit. A user with such an address cannot send it again.

* `Email.length_normalForm` says how long a normal form is, `Email.length_text_le` how long it can get.
* `InLimit` is what stored addresses have in common, and `inLimit_kept` that requests keep it.
* `resend_own_email` and `resend_refused` say what comes of a user's own address.
* `stored_addresses_measured` puts it together.
-/

namespace Roster

open Roster.Text

namespace Email

/-- A dotted capital I is two characters in the normal form. -/
theorem length_normalForm (s : String) :
    (normalForm s).length = (trimmed s).length + s.toList.count dottedCapitalI := by
  have hblank : isBlank dottedCapitalI = false := by decide
  simp only [normalForm, lowered, trimmed, String.length_ofList, String.toList_ofList]
  rw [length_lower, count_trim hblank]

/-- The two sides of the at sign have limits of their own. -/
theorem length_text_le (e : Email) : e.text.length ≤ 320 := by
  obtain ⟨before, host, hparts⟩ := e.exists_parts
  have hlength : e.text.length = before.length + (host.length + 1) := by
    rw [← String.length_toList, hparts.text_eq, List.length_append, List.length_cons]
  have hbefore := hparts.before_short
  have hhost := hparts.host_short
  omega

end Email

namespace Service

open Roster.Store Roster.Time Program

/-! ### Where stored addresses come from -/

/-- The address of a user comes of a text that is not too long. -/
def InLimit (u : User) : Prop :=
  ∃ asked : String, asked.length ≤ emailLimit ∧ u.email.text = Email.normalForm asked

theorem inLimit_kept : Kept InLimit where
  created hcheck _ hemail :=
    ⟨_, CreateRequest.email_short_of_check hcheck, normalEmail_eq_ok.1 hemail⟩
  changed {r name email v u} hcheck hnormal hamends hv := by
    obtain ⟨-, hemail⟩ := normalChanges_steps.1 hnormal
    simp only [InLimit]
    rw [hamends.email]
    cases hasked : r.email with
    | none =>
      rw [hasked] at hemail
      cases hemail
      exact hv
    | some asked =>
      rw [hasked] at hemail
      obtain ⟨e, he, rfl⟩ := mapM_some_eq_ok.1 hemail
      exact ⟨asked, UpdateRequest.email_short_of_check hcheck hasked, normalEmail_eq_ok.1 he⟩
  deleted hu := hu

/-! ### Requests that are accepted -/

section Requests

variable {w : World Repository}

theorem email_of_create {r : CreateRequest} {u : User}
    (h : ((base tableBacking).run (.create r) w).1 = .ok u) :
    r.email.length ≤ emailLimit ∧ u.email.text = Email.normalForm r.email := by
  have hexact := (creation w r).exact
  obtain ⟨-, -, -, hemail, -⟩ := hexact.saved u h
  have hfine := (hexact.accepted.1 ⟨u, h⟩).1
  exact ⟨Nat.le_of_not_lt fun hlong => hfine (.inr (.inl hlong)), hemail⟩

theorem email_of_update (hsound : w.store.table.Sound) {id : UserId} {r : UpdateRequest} {u : User}
    (h : ((base tableBacking).run (.update id r) w).1 = .ok u) {asked : String}
    (hasked : r.email = some asked) :
    asked.length ≤ emailLimit ∧ u.email.text = Email.normalForm asked := by
  have hreply := amendment hsound id r
  generalize ((base tableBacking).run (.update id r) w).1 = reply at h hreply
  generalize ((base tableBacking).run (.update id r) w).2.store = after at hreply
  cases hreply with
  | @saved v _ email hshort _ _ hemail _ hu =>
    cases h
    rw [hasked] at hemail
    obtain ⟨e, rfl, he⟩ := Option.map_eq_some_iff.1 hemail
    refine ⟨Nat.le_of_not_lt fun hlong => hshort (.inr ⟨asked, hasked, hlong⟩), ?_⟩
    rw [hu]
    exact he
  | _ => cases h

end Requests

/-! ### Sending the own address again -/

/-- The failure of an address that is too long. -/
def longEmail : Failure := .validation "email: Email cannot exceed 254 characters"

theorem check_email_long {s : String} (h : emailLimit < s.length) :
    (⟨none, some s⟩ : UpdateRequest).check = .error longEmail := by
  simp only [UpdateRequest.check, checkEmail, lengthFault?]
  rw [if_pos h]
  decide +kernel

/-- A live user can send the own address again if it is not too long, and nothing but the moment of the
last change is another then. -/
theorem resend_own_email {w : World Repository} (h : w.store.table.Sound) {u : User}
    (hu : w.store.table.find? u.id = some u) (hshort : u.email.text.length ≤ emailLimit) :
    ((base tableBacking).run (.update u.id ⟨none, some u.email.text⟩) w).1 =
      .ok { u with updatedAt := w.stamps.change.1 } := by
  have hcheck : (⟨none, some u.email.text⟩ : UpdateRequest).check = .ok () :=
    verdict_eq_ok.2 (checkEmail_eq_nil.2 ⟨rfl, hshort⟩)
  have hnormal : normalChanges ⟨none, some u.email.text⟩ = .ok (none, some u.email) := by
    refine normalChanges_steps.2 ⟨rfl, mapM_normalEmail_eq_ok.2 ?_⟩
    rw [Option.map_some, Option.map_some, u.email.normalForm_text]
  exact change_keeping_email h hu hcheck hnormal rfl

theorem resend_refused (id : UserId) (w : World Repository) {s : String}
    (hlong : emailLimit < s.length) :
    (base tableBacking).run (.update id ⟨none, some s⟩) w = (.error longEmail, w) := by
  show (updateUser id ⟨none, some s⟩).run tableBacking.handle w = _
  simp only [updateUser]
  rw [check_email_long hlong]
  rfl

/-! ### What is stored -/

/-- **How long stored addresses are.**  Whatever is asked of an empty repository, one request after
another or side by side, every stored address comes of a text within the limit and has, beside what is
left of that text when it is trimmed, one more character for every dotted capital I; in no case are there
more than 320. The same goes for what a creation or a change is answered with. A live user who sends the
own address again keeps it if it is within the limit, and is refused and left alone if it is not. -/
theorem stored_addresses_measured (stamps : Stamps) (moves : List (Move Operation)) :
    (∀ id u, Keyed.get? (abreast moves ⟨.empty, stamps⟩).state.store.table id = some u →
      u.email.text.length ≤ 320 ∧
      ∃ asked : String, asked.length ≤ 254 ∧ Email.ofText asked = .ok u.email ∧
        u.email.text.length = (trimmed asked).length + asked.toList.count dottedCapitalI) ∧
    (∀ r u, ((base tableBacking).run (.create r) (abreast moves ⟨.empty, stamps⟩).state).1 = .ok u →
      r.email.length ≤ 254 ∧
      u.email.text.length = (trimmed r.email).length + r.email.toList.count dottedCapitalI) ∧
    (∀ id r u, ((base tableBacking).run (.update id r) (abreast moves ⟨.empty, stamps⟩).state).1 =
        .ok u → ∀ asked, r.email = some asked → asked.length ≤ 254 ∧
      u.email.text.length = (trimmed asked).length + asked.toList.count dottedCapitalI) ∧
    ∀ id u, (abreast moves ⟨.empty, stamps⟩).state.store.table.find? id = some u →
      (u.email.text.length ≤ 254 →
        ((base tableBacking).run (.update id ⟨none, some u.email.text⟩)
          (abreast moves ⟨.empty, stamps⟩).state).1 =
            .ok { u with updatedAt := (abreast moves ⟨.empty, stamps⟩).state.stamps.change.1 }) ∧
      (254 < u.email.text.length →
        (base tableBacking).run (.update id ⟨none, some u.email.text⟩)
          (abreast moves ⟨.empty, stamps⟩).state =
            (.error longEmail, (abreast moves ⟨.empty, stamps⟩).state)) := by
  have hempty : Table.Sound (World.mk Repository.empty stamps).store.table := Table.sound_nil
  have hnow := abreast_orderly hempty moves
  have hsound := sound_tableAt hempty (abreast moves ⟨.empty, stamps⟩).log
  have hstart : ∀ id u, Keyed.get? (World.mk Repository.empty stamps).store.table id = some u →
      InLimit u := fun id u hu => nomatch hu
  have hrows := rows_kept inLimit_kept hstart hnow.lawful _ (List.prefix_refl _)
  rw [hnow.state]
  refine ⟨?_, ?_, ?_, ?_⟩
  · intro id u hu
    obtain ⟨asked, hshort, hform⟩ := hrows id u hu
    refine ⟨u.email.length_text_le, asked, hshort, Email.ofText_eq_ok.2 hform, ?_⟩
    rw [hform, Email.length_normalForm]
  · intro r u hu
    obtain ⟨hshort, hform⟩ := email_of_create hu
    exact ⟨hshort, by rw [hform, Email.length_normalForm]⟩
  · intro id r u hu asked hasked
    obtain ⟨hshort, hform⟩ := email_of_update hsound hu hasked
    exact ⟨hshort, by rw [hform, Email.length_normalForm]⟩
  · intro id u hu
    obtain ⟨-, rfl⟩ := hsound.find?_eq_some_iff.1 hu
    exact ⟨resend_own_email hsound hu, resend_refused u.id _⟩

/-! ### An address beyond the limit -/

/-- The letters of an address that is typed with dotted capitals I. -/
def dottedLetters : List Char :=
  "a@".toList ++ List.replicate 123 dottedCapitalI ++ "[1.1.1.1]".toList

/-- The creation of a user with that address. -/
def dottedCreation : CreateRequest := ⟨"a", String.ofList dottedLetters⟩

theorem dottedCreation_fine : ¬dottedCreation.Faulty := by
  have hlength : ¬emailLimit < dottedLetters.length := by decide +kernel
  have haddress : ¬isAddress (lower (trim dottedLetters)) = false := by decide +kernel
  simp only [CreateRequest.Faulty, dottedCreation, Email.normalForm, lowered, trimmed,
    String.toList_ofList, String.length_ofList]
  rintro (hname | hlong | hblank | hwrong)
  · revert hname
    decide
  · exact hlength hlong
  · revert hblank
    decide
  · exact haddress hwrong

theorem dottedCreation_accepted :
    ∃ u, ((base tableBacking).run (.create dottedCreation) ⟨.empty, Stamps.still⟩).1 = .ok u ∧
      u.email.text.length = 257 := by
  have hexact := (creation ⟨.empty, Stamps.still⟩ dottedCreation).exact
  obtain ⟨u, hu⟩ := hexact.accepted.2 ⟨dottedCreation_fine, rfl, fun v hv => nomatch hv⟩
  refine ⟨u, hu, ?_⟩
  have htrimmed : (trim dottedLetters).length = 134 := by decide +kernel
  have hdotted : dottedLetters.count dottedCapitalI = 123 := by decide +kernel
  rw [(email_of_create hu).2, Email.length_normalForm]
  simp only [dottedCreation, trimmed, String.toList_ofList, String.length_ofList, htrimmed, hdotted]

/-- The limit does not hold for what is stored: a request whose address is 134 characters long is
accepted, the address that is stored has 257, and the user is refused for it. -/
theorem own_address_refused :
    ∃ u, ((base tableBacking).run (.create dottedCreation) ⟨.empty, Stamps.still⟩).1 = .ok u ∧
      dottedCreation.email.length = 134 ∧ u.email.text.length = 257 ∧
      ((base tableBacking).run (.update u.id ⟨none, some u.email.text⟩)
        ((base tableBacking).run (.create dottedCreation) ⟨.empty, Stamps.still⟩).2).1 =
          .error (.validation "email: Email cannot exceed 254 characters") := by
  obtain ⟨u, hu, hlength⟩ := dottedCreation_accepted
  have htyped : dottedLetters.length = 134 := by decide +kernel
  have hlong : emailLimit < u.email.text.length := by
    rw [hlength]
    decide
  exact ⟨u, hu, String.length_ofList.trans htyped, hlength,
    congrArg Prod.fst (resend_refused u.id _ hlong)⟩

/-- Moves for a trial: a user with a short address is created. -/
def shortAddressMoves : List (Move Operation) :=
  [.come (.create ⟨"Bea", " Bea@X.com"⟩), .turn 0, .turn 0]

/-- Of two users, the one with the long address cannot send it again and the other one can. -/
theorem stored_addresses_measured_in_trial :
    (∃ moves id u, (abreast moves ⟨.empty, Stamps.still⟩).state.store.table.find? id = some u ∧
      u.email.text.length = 257 ∧
      ((base tableBacking).run (.update id ⟨none, some u.email.text⟩)
        (abreast moves ⟨.empty, Stamps.still⟩).state).1 = .error longEmail) ∧
    ∃ id u, (abreast shortAddressMoves ⟨.empty, Stamps.still⟩).state.store.table.find? id = some u ∧
      u.email.text.length = 9 ∧
      (∃ asked, Email.ofText asked = .ok u.email ∧
        9 = (trimmed asked).length + asked.toList.count dottedCapitalI) ∧
      ∃ v, ((base tableBacking).run (.update id ⟨none, some u.email.text⟩)
        (abreast shortAddressMoves ⟨.empty, Stamps.still⟩).state).1 = .ok v ∧ v.email = u.email := by
  constructor
  · obtain ⟨u, hu, hlength⟩ := dottedCreation_accepted
    obtain ⟨hlive, -, hstore⟩ := base_create_ok hu
    obtain ⟨moves, hmoves⟩ := exists_moves_one_by_one [.create dottedCreation] ⟨.empty, Stamps.still⟩
    obtain ⟨-, -, -, hresend⟩ := stored_addresses_measured Stamps.still moves
    have hafter : ∀ op w, after (base tableBacking).run [op] w = ((base tableBacking).run op w).2 :=
      fun _ _ => rfl
    have hfind : (abreast moves ⟨.empty, Stamps.still⟩).state.store.table.find? u.id = some u := by
      rw [hmoves, hafter, hstore]
      exact Table.find?_put_self _ hlive
    have hrefused := (hresend u.id u hfind).2 (by rw [hlength]; decide)
    exact ⟨moves, u.id, u, hfind, hlength, congrArg Prod.fst hrefused⟩
  · obtain ⟨hrows, -, -, hresend⟩ := stored_addresses_measured Stamps.still shortAddressMoves
    have hthere : ((abreast shortAddressMoves ⟨.empty, Stamps.still⟩).state.store.table.find?
        (Stamps.still.ids 0)).map (fun u => u.email.text.length) = some 9 := by decide +kernel
    obtain ⟨u, hu, hlength⟩ := Option.map_eq_some_iff.1 hthere
    obtain ⟨-, asked, -, hasked, hmeasured⟩ := hrows _ u (Table.find?_eq_some.1 hu).1
    have haccepted := (hresend _ u hu).1 (by rw [hlength]; decide)
    exact ⟨_, u, hu, hlength, ⟨asked, hasked, hlength ▸ hmeasured⟩, _, haccepted, rfl⟩

end Service

end Roster
