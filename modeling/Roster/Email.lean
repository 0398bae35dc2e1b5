import Roster.Json.Printer
import Roster.Net.HostName
import Roster.Net.IpAddress
import Roster.Text.Settled

/-!
# Email addresses

An address has a local part and a host with an at sign between them. It is kept without blanks around
it and in lower case.

* `isAddress` decides which texts are addresses.
* `Email.ofText` brings a text to its normal form and checks it; `Email.ofText_text` says that an
  address is its own normal form.
-/

namespace Roster

open Roster.Net Roster.Text

/-! ### Which texts are addresses -/

/-- The signs that may stand in a local part besides letters and digits. -/
def localSigns : List Char := ".!#$%&'*+/=?^_\x60\x7b|\x7d~-".toList

/-- Whether a character is an ASCII letter or digit. -/
def isPlain (c : Char) : Bool :=
  ('a' ≤ c && c ≤ 'z') || ('A' ≤ c && c ≤ 'Z') || isDigit c

/-- Whether a text can stand before the at sign. -/
def isLocalPart (cs : List Char) : Bool :=
  !cs.isEmpty && cs.length ≤ 64 && cs.all fun c => isPlain c || localSigns.contains c

/-- Whether a text is a label of a host name: letters, digits and, except at its ends, hyphens. -/
def isHostLabel (cs : List Char) : Bool :=
  !cs.isEmpty && cs.length ≤ 63 && cs.all (fun c => isPlain c || c == '-')
    && cs.head? != some '-' && cs.getLast? != some '-'

/-- Whether a text ends with an address of a host in brackets. -/
def endsWithIpAddress (cs : List Char) : Bool :=
  match splitLast? '[' cs with
  | some (_, inner) => inner.getLast? = some ']' && isIpAddress inner.dropLast
  | none => false

/-- Whether a text is a host, written in ASCII. -/
def isPlainHost (cs : List Char) : Bool :=
  (pieces '.' cs).all isHostLabel || endsWithIpAddress cs

/-- Whether a text can stand after the at sign. -/
def isHost (cs : List Char) : Bool :=
  cs.length ≤ 255 && (isPlainHost cs || (toAscii? cs).any isPlainHost)

/-- Whether a text is an address. -/
def isAddress (cs : List Char) : Bool :=
  match splitLast? '@' cs with
  | some (before, host) => isLocalPart before && isHost host
  | none => false

/-! ### Addresses in normal form -/

/-- A text without blanks around it and in lower case. -/
def Email.normalForm (s : String) : String := lowered (trimmed s)

/-- An email address. -/
structure Email where
  text : String
  isAddress_text : isAddress text.toList = true
  normalForm_text : Email.normalForm text = text
  deriving DecidableEq, Repr

/-- Why a text is no email address. -/
inductive EmailError where
  /-- Nothing but blanks. -/
  | empty
  /-- No address; the text is in normal form. -/
  | invalid (text : String)
  deriving DecidableEq, Repr

/-- The words for an error. -/
def EmailError.message : EmailError → String
  | .empty => "Email must not be empty"
  | .invalid text => "Invalid email address: " ++ text

namespace Email

theorem normalForm_normalForm (s : String) : normalForm (normalForm s) = normalForm s :=
  lowered_trimmed_twice s

/-- The address that a text denotes. -/
def ofText (s : String) : Except EmailError Email :=
  let text := normalForm s
  if text.isEmpty then .error .empty
  else if h : isAddress text.toList = true then .ok ⟨text, h, normalForm_normalForm s⟩
  else .error (.invalid text)

/-- The text of an address denotes the address. -/
theorem ofText_text (e : Email) : ofText e.text = .ok e := by
  have hne : e.text.isEmpty = false := by
    refine Bool.eq_false_iff.2 fun he => ?_
    have haddress := e.isAddress_text
    rw [String.isEmpty_iff.1 he] at haddress
    revert haddress
    decide
  simp only [ofText, e.normalForm_text, hne, Bool.false_eq_true, ↓reduceIte, e.isAddress_text,
    ↓reduceDIte]

/-- The host of an address: the text after its last at sign. -/
def host (e : Email) : String :=
  match splitLast? '@' e.text.toList with
  | some (_, host) => String.ofList host
  | none => ""

/-- The address as JSON text. -/
def json (e : Email) : List Char := Json.Print.text e.text

/-- Reads an address from JSON. -/
def reader : Json.Reader Email :=
  Json.text.check fun s =>
    match ofText s with
    | .ok e => .ok e
    | .error e => .error (.refused e.message)

end Email

end Roster
