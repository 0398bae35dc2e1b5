import Roster.Request

/-!
# What passes the checks of requests

A request passes if no field has a fault.

* `checkName_eq_nil` and `checkEmail_eq_nil` say which names and addresses have none.
* `UpdateRequest.check_eq_ok` says which requests pass; a creation is checked as a change that gives all
  fields.
* `UpdateRequest.joined` makes one change of two that are apart.
-/

namespace Roster

open Roster.Text

theorem Faults.add_ne_nil (faults : Faults) (field : String) (fault : Fault) :
    faults.add field fault ≠ [] := by
  cases faults with
  | nil => simp [Faults.add]
  | cons f rest =>
    obtain ⟨name, known⟩ := f
    simp only [Faults.add]
    split
    · cases known <;> simp
    · simp

theorem checkName_eq_nil {name : String} : checkName name [] = [] ↔ name.length ≤ nameLimit := by
  simp only [checkName, lengthFault?]
  by_cases hlong : nameLimit < name.length
  · rw [if_pos hlong]
    exact iff_of_false (Faults.add_ne_nil _ _ _) (Nat.not_le.2 hlong)
  · rw [if_neg hlong]
    exact iff_of_true rfl (Nat.not_lt.1 hlong)

theorem checkEmail_eq_nil {email : String} {faults : Faults} :
    checkEmail email faults = [] ↔ faults = [] ∧ email.length ≤ emailLimit := by
  simp only [checkEmail, lengthFault?]
  by_cases hlong : emailLimit < email.length
  · rw [if_pos hlong]
    exact iff_of_false (Faults.add_ne_nil _ _ _) fun h => Nat.not_le.2 hlong h.2
  · rw [if_neg hlong]
    exact ⟨fun h => ⟨h, Nat.not_lt.1 hlong⟩, And.left⟩

theorem verdict_eq_ok {faults : Faults} : faults.verdict = .ok () ↔ faults = [] := by
  simp only [Faults.verdict]
  cases faults with
  | nil => exact iff_of_true rfl rfl
  | cons f rest => exact iff_of_false (fun h => nomatch h) (fun h => nomatch h)

/-! ### Requests -/

/-- A name or an address that is given is longer than it may be. -/
def UpdateRequest.TooLong (r : UpdateRequest) : Prop :=
  (∃ name ∈ r.name, nameLimit < name.length) ∨ ∃ email ∈ r.email, emailLimit < email.length

instance (r : UpdateRequest) : Decidable r.TooLong := inferInstanceAs (Decidable (_ ∨ _))

theorem UpdateRequest.check_eq_ok {r : UpdateRequest} : r.check = .ok () ↔ ¬r.TooLong := by
  obtain ⟨name, email⟩ := r
  simp only [check, TooLong]
  rw [verdict_eq_ok]
  cases name <;> cases email <;> simp [checkName_eq_nil, checkEmail_eq_nil]

theorem UpdateRequest.tooLong_of_check {r : UpdateRequest} {e : Failure} (h : r.check = .error e) :
    r.TooLong :=
  Decidable.byContradiction fun hshort => nomatch (check_eq_ok.2 hshort).symm.trans h

/-- A name that is given is blank, or a text that is given is no address. -/
def UpdateRequest.Unusable (r : UpdateRequest) : Prop :=
  (∃ name ∈ r.name, allBlank name = true) ∨
    ∃ email ∈ r.email, isAddress (Email.normalForm email).toList = false

instance (r : UpdateRequest) : Decidable r.Unusable := inferInstanceAs (Decidable (_ ∨ _))

/-- The fields of a creation, as those of a change that gives them all. -/
def CreateRequest.fields (r : CreateRequest) : UpdateRequest := ⟨some r.name, some r.email⟩

/-- Something speaks against a creation, whoever is there: a field is too long, the name is blank or the
text for the address is none. -/
def CreateRequest.Faulty (r : CreateRequest) : Prop :=
  nameLimit < r.name.length ∨ emailLimit < r.email.length ∨ allBlank r.name = true ∨
    isAddress (Email.normalForm r.email).toList = false

instance (r : CreateRequest) : Decidable r.Faulty := inferInstanceAs (Decidable (_ ∨ _ ∨ _ ∨ _))

theorem CreateRequest.faulty_iff {r : CreateRequest} :
    r.Faulty ↔ r.fields.TooLong ∨ r.fields.Unusable := by
  simp only [Faulty, fields, UpdateRequest.TooLong, UpdateRequest.Unusable, Option.mem_def,
    Option.some.injEq, exists_eq_left', or_assoc]

theorem CreateRequest.check_eq (r : CreateRequest) : r.check = r.fields.check := rfl

theorem UpdateRequest.short_of_check {r : UpdateRequest} (h : r.check = .ok ()) {name : String}
    (hname : r.name = some name) : name.length ≤ nameLimit :=
  Nat.le_of_not_lt fun hlong => check_eq_ok.1 h (.inl ⟨name, hname, hlong⟩)

theorem CreateRequest.short_of_check {r : CreateRequest} (h : r.check = .ok ()) :
    r.name.length ≤ nameLimit :=
  UpdateRequest.short_of_check (r.check_eq ▸ h) rfl

theorem UpdateRequest.email_short_of_check {r : UpdateRequest} (h : r.check = .ok ()) {email : String}
    (hemail : r.email = some email) : email.length ≤ emailLimit :=
  Nat.le_of_not_lt fun hlong => check_eq_ok.1 h (.inr ⟨email, hemail, hlong⟩)

theorem CreateRequest.email_short_of_check {r : CreateRequest} (h : r.check = .ok ()) :
    r.email.length ≤ emailLimit :=
  UpdateRequest.email_short_of_check (r.check_eq ▸ h) rfl

/-! ### Two changes in one -/

namespace UpdateRequest

/-- Two changes that do not give the same field. -/
structure Apart (r s : UpdateRequest) : Prop where
  name : r.name = none ∨ s.name = none
  email : r.email = none ∨ s.email = none

/-- Two changes in one. -/
def joined (r s : UpdateRequest) : UpdateRequest := ⟨r.name.or s.name, r.email.or s.email⟩

theorem exists_mem_or {α : Type} {a b : Option α} (h : a = none ∨ b = none) (p : α → Prop) :
    (∃ x ∈ a.or b, p x) ↔ (∃ x ∈ a, p x) ∨ ∃ x ∈ b, p x := by
  rcases h with rfl | rfl <;> simp

variable {r s : UpdateRequest} (h : r.Apart s)

include h

theorem Apart.tooLong_joined : (r.joined s).TooLong ↔ r.TooLong ∨ s.TooLong := by
  simp only [TooLong, joined, exists_mem_or h.name, exists_mem_or h.email]
  exact or_or_or_comm

theorem Apart.unusable_joined : (r.joined s).Unusable ↔ r.Unusable ∨ s.Unusable := by
  simp only [Unusable, joined, exists_mem_or h.name, exists_mem_or h.email]
  exact or_or_or_comm

end UpdateRequest

end Roster
