import Roster.Json.Printer
import Roster.Text.Bytes

/-!
# Ids of users

An id is a number of 128 bits. It is written as 32 hexadecimal digits in five groups, and read from
that form, with or without braces or the name of its scheme, or from the digits alone.

* `UserId.text` writes and `UserId.ofText` reads an id.
* `IdError` says what is wrong with a text that is no id; `diagnose` finds it.
-/

namespace Roster

open Roster.Text

/-- The id of a user. -/
structure UserId where
  value : Nat
  value_lt : value < 0x100000000000000000000000000000000
  deriving DecidableEq, Repr

/-- Why a text is no id. -/
inductive IdError where
  /-- A character that is neither a digit nor a hyphen, at an index in bytes. -/
  | character (c : Char) (index : Nat)
  /-- The wrong number of bytes. -/
  | length (found : Nat)
  /-- The wrong number of groups. -/
  | groupCount (found : Nat)
  /-- The wrong number of digits in a group. -/
  | groupLength (group expected found : Nat)
  deriving DecidableEq, Repr

/-- The words for an error. -/
def IdError.message : IdError → String
  | .character c i =>
    "invalid character: found " ++ Json.ticked (String.ofList [c]) ++ " at " ++
      String.ofList (decimal i)
  | .length n => "invalid length: found " ++ String.ofList (decimal n)
  | .groupCount n => "invalid group count: expected 5, found " ++ String.ofList (decimal n)
  | .groupLength g e n =>
    "invalid group length in group " ++ String.ofList (decimal g) ++ ": expected " ++
      String.ofList (decimal e) ++ ", found " ++ String.ofList (decimal n)

namespace UserId

/-- The version of an id: what its digits were made from. -/
def version (id : UserId) : Nat := id.value >>> 76 % 16

/-- The `n`-th id of a series: an id of version 7 whose last 48 bits count. -/
def inSeries (n : Nat) : UserId where
  value := 0x70008000000000000000 + n % 0x1000000000000
  value_lt := by
    have : n % 0x1000000000000 < 0x1000000000000 := Nat.mod_lt _ (by decide)
    omega

/-! ### Writing -/

/-- A hexadecimal digit. -/
def hexDigit (n : Nat) : Char := if n < 10 then Char.ofNat (48 + n) else Char.ofNat (87 + n)

/-- The last `width` hexadecimal digits of a number. -/
def hexDigits : Nat → Nat → List Char
  | 0, _ => []
  | width + 1, n => hexDigits width (n / 16) ++ [hexDigit (n % 16)]

/-- The 32 digits of an id. -/
def digits (id : UserId) : List Char := hexDigits 32 id.value

/-- Digits in groups of 8, 4, 4, 4 and 12. -/
def grouped (ds : List Char) : List Char :=
  ds.take 8 ++ '-' :: (ds.drop 8).take 4 ++ '-' :: (ds.drop 12).take 4 ++
    '-' :: (ds.drop 16).take 4 ++ '-' :: ds.drop 20

/-- The id in five groups of digits. -/
def text (id : UserId) : List Char := grouped id.digits

/-! ### Reading -/

/-- The number that hexadecimal digits denote. -/
def hexNumber? (cs : List Char) : Option Nat :=
  cs.foldlM (fun n c => (hexValue? c).map (n * 16 + ·)) 0

/-- The id with the given digits. -/
def ofDigits? (cs : List Char) : Option UserId := do
  let n ← hexNumber? cs
  if h : n < 0x100000000000000000000000000000000 then some ⟨n, h⟩ else none

/-- The id that is written in five groups. -/
def ofGroups? (cs : List Char) : Option UserId :=
  let ds := cs.take 8 ++ (cs.drop 9).take 4 ++ (cs.drop 14).take 4 ++ (cs.drop 19).take 4 ++
    cs.drop 24
  if cs.length = 36 && cs == grouped ds then ofDigits? ds else none

/-- The text after the name of the scheme of ids, in any case. -/
def afterScheme? (cs : List Char) : Option (List Char) :=
  if (cs.take 9).map Char.toLower == "urn:uuid:".toList then some (cs.drop 9) else none

/-- The text between braces. -/
def betweenBraces? (cs : List Char) : Option (List Char) :=
  if cs.head? = some '{' && cs.getLast? = some '}' && 2 ≤ cs.length then some cs.tail.dropLast
  else none

/-- The groups of a text whose length is that of an id in groups, whatever stands around them. -/
def groupsOf? (cs : List Char) : Option (List Char) :=
  match byteLength cs with
  | 36 => some cs
  | 38 => betweenBraces? cs
  | 45 => afterScheme? cs
  | _ => none

/-- The indexes at which the groups start. -/
def groupStarts : List Nat := [0, 9, 14, 19, 24]

/-- The first character that is neither a digit nor a hyphen, with its index in bytes. -/
def strangeChar? : Nat → List Char → Option (Char × Nat)
  | _, [] => none
  | index, c :: rest =>
    if c == '-' || (hexValue? c).isSome then strangeChar? (index + c.utf8Size) rest
    else some (c, index)

/-- The indexes of the hyphens. -/
def hyphens : Nat → List Char → List Nat
  | _, [] => []
  | index, c :: rest =>
    if c == '-' then index :: hyphens (index + 1) rest else hyphens (index + c.utf8Size) rest

/-- The first group with the wrong number of digits, from the indexes at which groups start and end. -/
def wrongGroup? : Nat → List Nat → List Nat → Option IdError
  | group, start :: start' :: starts, stop :: stops =>
    if stop + 1 = start' then wrongGroup? (group + 1) (start' :: starts) stops
    else some (.groupLength group (start' - 1 - start) (stop - start))
  | group, [start], [stop] =>
    if stop = start + 12 then none else some (.groupLength group 12 (stop - start))
  | _, _, _ => none

/-- What is wrong with a text that should be digits in groups. The text starts at the index `offset`
of the whole, which has `whole` bytes; it is `bare` if nothing stands around it. -/
def diagnose (offset whole : Nat) (bare : Bool) (cs : List Char) : IdError :=
  match strangeChar? offset cs with
  | some (c, i) => .character c i
  | none =>
    let marks := hyphens 0 cs
    if marks.isEmpty && bare then .length whole
    else if marks.length ≠ 4 then .groupCount (marks.length + 1)
    else (wrongGroup? 0 groupStarts (marks ++ [byteLength cs])).getD (.length whole)

/-- What is wrong with a text whose length is that of no form of an id. -/
def diagnoseWhole (cs : List Char) : IdError :=
  let whole := byteLength cs
  let (inner, offset) := match afterScheme? cs with
    | some inner => (inner, 9)
    | none => (cs, 0)
  let (inner, offset) := match betweenBraces? inner with
    | some inner => (inner, offset + 1)
    | none => (inner, offset)
  diagnose offset whole (offset = 0) inner

/-- The id that a text denotes. -/
def ofText (cs : List Char) : Except IdError UserId :=
  if byteLength cs = 32 then
    match ofDigits? cs with
    | some id => .ok id
    | none => .error (diagnoseWhole cs)
  else match groupsOf? cs with
    | some inner =>
      match ofGroups? inner with
      | some id => .ok id
      | none => .error (diagnose 0 (byteLength cs) false inner)
    | none => .error (diagnoseWhole cs)

/-- The id as JSON text. -/
def json (id : UserId) : List Char := Json.Print.text (String.ofList id.text)

/-- Reads an id from JSON. -/
def reader : Json.Reader UserId :=
  (Json.textAs "a formatted UUID string").check fun s =>
    match ofText s.toList with
    | .ok id => .ok id
    | .error e => .error (.refused ("UUID parsing failed: " ++ e.message))

end UserId

end Roster
