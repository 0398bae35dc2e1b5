import Roster.Cache.Key
import Roster.Proofs.Page.Basic
import Roster.Proofs.Text.Digits
import Roster.Proofs.UserId

/-!
# Keys tell entries apart

No two users have one key, no two pages of a listing have one, and no page has the key of a user.
-/

namespace Roster.Cache

open Roster.Text

theorem userKey_inj {i j : UserId} : userKey i = userKey j ↔ i = j := by
  refine ⟨fun h => ?_, fun h => by rw [h]⟩
  have htexts := List.append_cancel_left (String.ofList_inj.1 h)
  exact UserId.text_inj.1 htexts

/-- A number in front of a colon is told apart from what comes after. -/
theorem decimal_colon_inj {m n : Nat} {cs ds : List Char}
    (h : decimal m ++ ':' :: cs = decimal n ++ ':' :: ds) : m = n ∧ cs = ds := by
  have hm : ∀ c ∈ decimal m, isDigit c = true := fun c hc => isDigit_of_mem hc
  have hn : ∀ c ∈ decimal n, isDigit c = true := fun c hc => isDigit_of_mem hc
  have hends : ∀ cs, EndsDigits (':' :: cs) := fun cs => endsDigits_cons (by decide) cs
  have htake := congrArg (List.takeWhile isDigit) h
  have hdrop := congrArg (List.dropWhile isDigit) h
  rw [takeWhile_digits hm (hends cs), takeWhile_digits hn (hends ds)] at htake
  rw [dropWhile_digits hm (hends cs), dropWhile_digits hn (hends ds)] at hdrop
  exact ⟨decimal_inj.1 htake, (List.cons.inj hdrop).2⟩

theorem pageKey_inj {g h : Nat} {p q : PageRequest} :
    pageKey g p = pageKey h q ↔ g = h ∧ p = q := by
  refine ⟨fun he => ?_, fun ⟨hg, hp⟩ => by rw [hg, hp]⟩
  have htexts := String.ofList_inj.1 he
  simp only [List.append_assoc, List.cons_append] at htexts
  obtain ⟨hgen, hrest⟩ := decimal_colon_inj (List.append_cancel_left htexts)
  obtain ⟨hpage, hsize⟩ := decimal_colon_inj hrest
  exact ⟨hgen, PageRequest.eq_of_parts hpage (decimal_inj.1 hsize)⟩

theorem userKey_ne_pageKey (id : UserId) (g : Nat) (r : PageRequest) :
    userKey id ≠ pageKey g r := by
  intro h
  -- The names differ in their sixth character already.
  have hsixth := congrArg (fun cs => cs[5]?) (String.ofList_inj.1 h)
  simp at hsixth

/-- **Keys never collide.**  Users have the same key only if they have the same id, and pages of the
listing only if generation, page and size are the same; a user never has the key of a page. -/
theorem keys_never_collide (i j : UserId) (g h : Nat) (p q : PageRequest) :
    (userKey i = userKey j ↔ i = j) ∧ (pageKey g p = pageKey h q ↔ g = h ∧ p = q) ∧
      userKey i ≠ pageKey g p :=
  ⟨userKey_inj, pageKey_inj, userKey_ne_pageKey i g p⟩

end Roster.Cache
