import Roster.Cache.Payload
import Roster.Proofs.Email
import Roster.Proofs.Json.Printed
import Roster.Proofs.Time.Written
import Roster.Proofs.UserId

/-!
# Payloads are read back

What the cache keeps of a user is the user, and what it keeps of a page is the page, except that a
listing of more than 64 bits can count is not read back at all.

* `User.reads_json` and `Bundle.reads_json` are about the JSON texts.
* `decodeUser?_encodeUser`, `decodeBundle?_encodeBundle` and `decodeBundle?_encodeBundle_of_lt` are
  about the bytes, and `payloads_read_back` is about reading them and writing them again.
-/

namespace Roster

open Roster.Json Roster.Number Roster.Text Roster.Time

/-! ### Users -/

theorem UserId.reads_json (id : UserId) : Reads UserId.reader 0 id.json id := by
  refine Reads.check (reads_textAs _ _) ?_
  rw [String.toList_ofList, UserId.ofText_text]

theorem Time.Timestamp.reads_json (t : Timestamp) : Reads Timestamp.reader 0 t.json t := by
  refine Reads.check (reads_textAs _ _) ?_
  rw [String.toList_ofList, Timestamp.ofText_text]

theorem Time.Timestamp.reads_optional (t : Option Timestamp) :
    Reads (optional Timestamp.reader) 0 (Print.optional Timestamp.json t) t := by
  cases t with
  | none => exact reads_optional_none _
  | some t => exact reads_optional_some t.reads_json

/-- A user is read back from the JSON text of the user. -/
theorem User.reads_json (u : User) : Reads User.reader 1 u.json u := by
  let d : User.Draft := ⟨some u.id, some u.name, some u.email, some u.createdAt, some u.updatedAt,
    some u.deletedAt⟩
  refine Record.reads_object (s := d) (fun depth hdepth => ?_) rfl
  exact Record.steps_cons hdepth rfl rfl u.id.reads_json <|
    Record.steps_cons hdepth rfl rfl (reads_textAs _ u.name) <|
    Record.steps_cons hdepth rfl rfl u.email.reads_json <|
    Record.steps_cons hdepth rfl rfl u.createdAt.reads_json <|
    Record.steps_cons hdepth rfl rfl u.updatedAt.reads_json <|
    Record.steps_cons hdepth rfl rfl (Timestamp.reads_optional u.deletedAt) <|
    Steps.nil _

/-! ### Pages -/

namespace Cache

theorem User.opens_json (u : User) : Opens u.json := opens_cons (by decide) _

/-- The users of a bundle are read back. -/
theorem Bundle.reads_users (users : List User) :
    Reads (Json.list User.reader) 2 (Print.list (users.map User.json)) users :=
  reads_list (fun u _ => User.opens_json u) (fun u _ => u.reads_json)

/-- A bundle is read back from its JSON text as long as its total has no more than 64 bits. -/
theorem Bundle.reads_json {b : Bundle} (h : b.total ≤ wordMax) : Reads Bundle.reader 3 b.json b := by
  let d : Bundle.Draft := ⟨some b.users, some b.total⟩
  refine Record.reads_object (s := d) (fun depth hdepth => ?_) rfl
  exact Record.steps_cons hdepth rfl rfl (Bundle.reads_users b.users) <|
    Record.steps_cons (Nat.zero_le depth) rfl rfl (reads_natural h _) <|
    Steps.nil _

/-- A bundle with a larger total is not read back at all. -/
theorem Bundle.reader_error {b : Bundle} (h : wordMax < b.total) :
    ∃ e, Bundle.reader.run (String.ofList b.json) = .error e := by
  have hsteps : Steps (Bundle.record.entry 126) [("u", Print.list (b.users.map User.json))]
      Bundle.record.blank ⟨some b.users, none⟩ :=
    Record.steps_cons (by decide) rfl rfl (Bundle.reads_users b.users) (Steps.nil _)
  have hallowed : Bundle.record.entry 126 "t" ⟨some b.users, none⟩ = .ok ((Field.of "t"
      (Json.natural wordMax "u64") Draft.total ({ · with total := some · }) none).read
        ⟨some b.users, none⟩ 126) := rfl
  have hfail : ∀ rest, EndsValue rest → ∃ e, (Field.of "t" (Json.natural wordMax "u64") Draft.total
      ({ · with total := some · }) none).read ⟨some b.users, none⟩ 126
        (Print.natural b.total ++ rest) = .error e := by
    intro rest hr
    obtain ⟨e, he⟩ := natural_of_wordMax_lt h "u64" 126 hr
    refine ⟨e, ?_⟩
    show (_ <$> natural wordMax "u64" 126) _ = _
    rw [map_eq_pure_bind]
    exact bind_of_error he _
  obtain ⟨e, he⟩ := entries_fail hsteps hallowed hfail []
  have hread : Bundle.reader deepest b.json = .error e := by
    show (entries (Bundle.record.entry 126) Bundle.record.blank >>= _ : Scan Bundle) _ = _
    exact bind_of_error he _
  refine ⟨e, ?_⟩
  simp only [Reader.run]
  rw [String.toList_ofList, hread]
  rfl

/-! ### Bytes -/

theorem fromUTF8?_bytesOf (cs : List Char) : String.fromUTF8? (bytesOf cs) = some (String.ofList cs) :=
  dif_pos (String.ofList cs).isValidUTF8

theorem decode?_bytesOf_eq {α : Type} (read : Reader α) (cs : List Char) :
    decode? read (bytesOf cs) = (read.run (String.ofList cs)).toOption := by
  simp only [decode?]
  rw [fromUTF8?_bytesOf]
  rfl

theorem decode?_bytesOf {α : Type} {read : Reader α} {cs : List Char} {a : α}
    (h : Reads read deepest cs a) : decode? read (bytesOf cs) = some a := by
  rw [decode?_bytesOf_eq, h.run]
  rfl

theorem decodeUser?_encodeUser (u : User) : decodeUser? (encodeUser u) = some u :=
  decode?_bytesOf (u.reads_json.mono (by decide))

theorem decodeBundle?_encodeBundle {b : Bundle} (h : b.total ≤ wordMax) :
    decodeBundle? (encodeBundle b) = some b := by
  simp only [decodeBundle?, encodeBundle]
  exact decode?_bytesOf ((Bundle.reads_json h).mono (by decide))

theorem decodeBundle?_encodeBundle_of_lt {b : Bundle} (h : wordMax < b.total) :
    decodeBundle? (encodeBundle b) = none := by
  obtain ⟨e, he⟩ := Bundle.reader_error h
  simp only [decodeBundle?, encodeBundle]
  rw [decode?_bytesOf_eq, he]
  rfl

/-- Whatever is read back of a bundle is the bundle. -/
theorem eq_of_decodeBundle? {b c : Bundle} (h : decodeBundle? (encodeBundle b) = some c) : c = b := by
  rcases Nat.lt_or_ge wordMax b.total with hlt | hle
  · rw [decodeBundle?_encodeBundle_of_lt hlt] at h
    cases h
  · rw [decodeBundle?_encodeBundle hle] at h
    exact (Option.some.inj h).symm

/-- **Cached payloads are read back.**  The bytes of a user are read as this user, whatever the id, the
name, the address and the moments are, and those of a bundle as the same users in the same order with
the same total, which may be any number of 64 bits. What is read is written as the same bytes again. -/
theorem payloads_read_back (u : User) (users : List User) {total : Nat} (h : total ≤ wordMax) :
    (decodeUser? (encodeUser u) = some u ∧
        (decodeUser? (encodeUser u)).map encodeUser = some (encodeUser u)) ∧
      decodeBundle? (encodeBundle ⟨users, total⟩) = some ⟨users, total⟩ ∧
        (decodeBundle? (encodeBundle ⟨users, total⟩)).map encodeBundle =
          some (encodeBundle ⟨users, total⟩) := by
  have huser : decodeUser? (encodeUser u) = some u := decodeUser?_encodeUser u
  have hbundle : decodeBundle? (encodeBundle ⟨users, total⟩) = some ⟨users, total⟩ :=
    decodeBundle?_encodeBundle h
  refine ⟨⟨huser, ?_⟩, hbundle, ?_⟩
  · rw [huser, Option.map_some]
  · rw [hbundle, Option.map_some]

/-- A user at the limits: the greatest id, a name of characters that have to be escaped, a moment of the
first second and the last moment, which is within a leap second. -/
def trialUser : User where
  id := ⟨0xffffffffffffffffffffffffffffffff, by decide⟩
  name := "\x22 \x5c \x00 \x1f ë"
  email := ⟨"zoe@x.com", by decide +kernel, by decide +kernel⟩
  createdAt := ⟨firstSecond, 1, by decide, by decide, by decide, by decide⟩
  updatedAt := ⟨lastSecond, 1999999999, by decide, by decide, by decide, by decide⟩
  deletedAt := none

theorem payloads_read_back_at_the_limits :
    wordMax ≤ wordMax ∧ decodeUser? (encodeUser trialUser) = some trialUser ∧
      decodeBundle? (encodeBundle ⟨[trialUser, trialUser], wordMax⟩) =
        some ⟨[trialUser, trialUser], wordMax⟩ := by
  have hread := payloads_read_back trialUser [trialUser, trialUser] (Nat.le_refl wordMax)
  exact ⟨Nat.le_refl wordMax, hread.1.1, hread.2.1⟩

end Cache

end Roster
