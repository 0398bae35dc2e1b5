import Roster.Proofs.Email
import Roster.Proofs.Request
import Roster.Proofs.Steps
import Roster.Service.Base

/-!
# What requests give in normal form

The service brings a name and an address to their normal forms, or refuses them. It refuses nothing else
at this stage and for no other reason.

* `normalName_eq_ok`, `normalEmail_eq_ok` and `normalChanges_eq_ok` say what comes out, and of which
  texts; `exists_normalChanges_iff` says of which requests something comes out.
* `OnlyInvalid` is what the checks have in common: a failure of theirs is one of validation.
-/

namespace Roster.Service

open Roster.Text

/-! ### Refusals -/

section Refusals

variable {α β : Type}

/-- Something fails because what was asked is not well formed. -/
def Invalid (x : Except Failure α) : Prop := ∃ reason, x = .error (.validation reason)

/-- If something fails, it is because what was asked is not well formed. -/
def OnlyInvalid (x : Except Failure α) : Prop := ∀ e, x = .error e → Invalid x

theorem OnlyInvalid.ok (a : α) : OnlyInvalid (.ok a) := fun _ h => nomatch h

theorem OnlyInvalid.bind {x : Except Failure α} {f : α → Except Failure β} (hx : OnlyInvalid x)
    (hf : ∀ a, OnlyInvalid (f a)) : OnlyInvalid (x >>= f) := by
  cases x with
  | ok a => exact hf a
  | error e =>
    obtain ⟨reason, he⟩ := hx e rfl
    cases he
    exact fun _ _ => ⟨reason, rfl⟩

theorem OnlyInvalid.mapM {f : α → Except Failure β} (hf : ∀ a, OnlyInvalid (f a)) (o : Option α) :
    OnlyInvalid (o.mapM f) := by
  cases o with
  | none => exact .ok none
  | some a => exact (hf a).bind fun b => .ok (some b)

end Refusals

/-! ### Normal forms -/

theorem normalName_eq_ok {s name : String} :
    normalName s = .ok name ↔ allBlank s = false ∧ name = trimmed s := by
  simp only [normalName]
  cases allBlank s with
  | true => exact ⟨fun h => (nomatch h), fun h => nomatch h.1⟩
  | false => exact ⟨fun h => ⟨rfl, (Except.ok.inj h).symm⟩, fun h => congrArg Except.ok h.2.symm⟩

theorem normalEmail_eq_ok {s : String} {email : Email} :
    normalEmail s = .ok email ↔ email.text = Email.normalForm s := by
  rw [← Email.ofText_eq_ok]
  simp only [normalEmail]
  cases Email.ofText s with
  | ok e => exact ⟨fun h => congrArg _ (Except.ok.inj h), fun h => congrArg _ (Except.ok.inj h)⟩
  | error e => exact ⟨fun h => (nomatch h), fun h => (nomatch h)⟩

theorem onlyInvalid_verdict (faults : Faults) : OnlyInvalid faults.verdict := by
  simp only [Faults.verdict]
  split
  · exact .ok ()
  · exact fun _ _ => ⟨faults.summary, rfl⟩

theorem onlyInvalid_check (r : UpdateRequest) : OnlyInvalid r.check := onlyInvalid_verdict _

theorem onlyInvalid_normalName (s : String) : OnlyInvalid (normalName s) := by
  simp only [normalName]
  split
  · exact fun _ _ => ⟨_, rfl⟩
  · exact .ok _

theorem onlyInvalid_normalEmail (s : String) : OnlyInvalid (normalEmail s) := by
  simp only [normalEmail]
  split
  · exact .ok _
  · rename_i e _
    exact fun _ _ => ⟨e.message, rfl⟩

theorem onlyInvalid_normalChanges (r : UpdateRequest) : OnlyInvalid (normalChanges r) :=
  (OnlyInvalid.mapM onlyInvalid_normalName r.name).bind fun _ =>
    (OnlyInvalid.mapM onlyInvalid_normalEmail r.email).bind fun _ => .ok _

theorem mapM_some_eq_ok {α β : Type} {f : α → Except Failure β} {a : α} {o : Option β} :
    (some a).mapM f = .ok o ↔ ∃ b, f a = .ok b ∧ o = some b := by
  rw [Option.mapM_some]
  cases f a with
  | error e => exact ⟨fun h => (nomatch h), fun ⟨_, h, _⟩ => (nomatch h)⟩
  | ok b =>
    constructor
    · intro h
      exact ⟨b, rfl, (Except.ok.inj h).symm⟩
    · rintro ⟨b', hb, rfl⟩
      exact congrArg (fun b => Except.ok (some b)) (Except.ok.inj hb)

theorem mapM_normalName_eq_ok {asked name : Option String} :
    asked.mapM normalName = .ok name ↔
      (∀ s, asked = some s → allBlank s = false) ∧ name = asked.map trimmed := by
  cases asked with
  | none => exact ⟨fun h => ⟨fun _ hs => (nomatch hs), (Except.ok.inj h).symm⟩,
      fun h => congrArg Except.ok h.2.symm⟩
  | some s =>
    rw [mapM_some_eq_ok]
    constructor
    · rintro ⟨name', hname, rfl⟩
      obtain ⟨hwritten, rfl⟩ := normalName_eq_ok.1 hname
      exact ⟨fun s' hs' => Option.some.inj hs' ▸ hwritten, rfl⟩
    · rintro ⟨hwritten, rfl⟩
      exact ⟨trimmed s, normalName_eq_ok.2 ⟨hwritten s rfl, rfl⟩, rfl⟩

theorem mapM_normalEmail_eq_ok {asked : Option String} {email : Option Email} :
    asked.mapM normalEmail = .ok email ↔ email.map Email.text = asked.map Email.normalForm := by
  cases asked with
  | none =>
    cases email with
    | none => exact iff_of_true rfl rfl
    | some e => exact iff_of_false (fun h => nomatch h) (fun h => nomatch h)
  | some s =>
    rw [mapM_some_eq_ok]
    constructor
    · rintro ⟨e, he, rfl⟩
      rw [Option.map_some, Option.map_some, normalEmail_eq_ok.1 he]
    · intro h
      obtain ⟨e, rfl, he⟩ := Option.map_eq_some_iff.1 h
      exact ⟨e, normalEmail_eq_ok.2 he, rfl⟩

theorem normalChanges_steps {r : UpdateRequest} {name : Option String} {email : Option Email} :
    normalChanges r = .ok (name, email) ↔
      r.name.mapM normalName = .ok name ∧ r.email.mapM normalEmail = .ok email := by
  simp only [normalChanges, bind_eq_ok]
  constructor
  · rintro ⟨name', hname, email', hemail, hsame⟩
    cases hsame
    exact ⟨hname, hemail⟩
  · rintro ⟨hname, hemail⟩
    exact ⟨name, hname, email, hemail, rfl⟩

theorem normalChanges_eq_ok {r : UpdateRequest} {name : Option String} {email : Option Email} :
    normalChanges r = .ok (name, email) ↔ ¬r.Unusable ∧ name = r.name.map trimmed ∧
      email.map Email.text = r.email.map Email.normalForm := by
  rw [normalChanges_steps, mapM_normalName_eq_ok, mapM_normalEmail_eq_ok]
  constructor
  · rintro ⟨⟨hwritten, hname⟩, hemail⟩
    refine ⟨?_, hname, hemail⟩
    rintro (⟨s, hs, hblank⟩ | ⟨s, hs, hwrong⟩)
    · rw [hwritten s hs] at hblank
      cases hblank
    · rw [hs] at hemail
      obtain ⟨e, -, he⟩ := Option.map_eq_some_iff.1 hemail
      rw [Email.exists_text_iff.1 ⟨e, he⟩] at hwrong
      cases hwrong
  · rintro ⟨husable, hname, hemail⟩
    exact ⟨⟨fun s hs => Bool.eq_false_iff.2 fun hblank => husable (.inl ⟨s, hs, hblank⟩), hname⟩,
      hemail⟩

/-- What a request gives has normal forms unless something in it is unusable. -/
theorem exists_normalChanges_iff {r : UpdateRequest} :
    (∃ name email, normalChanges r = .ok (name, email)) ↔ ¬r.Unusable := by
  constructor
  · rintro ⟨name, email, h⟩
    exact (normalChanges_eq_ok.1 h).1
  · intro husable
    have hemail : ∃ email : Option Email, email.map Email.text = r.email.map Email.normalForm := by
      cases hs : r.email with
      | none => exact ⟨none, rfl⟩
      | some s =>
        have haddress : isAddress (Email.normalForm s).toList = true :=
          Bool.not_eq_false _ ▸ fun hwrong => husable (.inr ⟨s, hs, hwrong⟩)
        obtain ⟨e, he⟩ := Email.exists_text_iff.2 haddress
        exact ⟨some e, by rw [Option.map_some, Option.map_some, he]⟩
    obtain ⟨email, hemail⟩ := hemail
    exact ⟨_, email, normalChanges_eq_ok.2 ⟨husable, rfl, hemail⟩⟩

theorem unusable_of_normalChanges {r : UpdateRequest} {e : Failure}
    (h : normalChanges r = .error e) : r.Unusable := by
  apply Decidable.byContradiction
  intro husable
  obtain ⟨name, email, hok⟩ := exists_normalChanges_iff.2 husable
  rw [hok] at h
  cases h

end Roster.Service
