import Roster.Json.Reader

/-!
# Choices in JSON

A choice between names: a text with one of the names, or an object with the name as its only key and
null as its value.
-/

namespace Roster.Json

/-- One of several names, with what it stands for. -/
def named {α : Type} (names : List (String × α)) : Reader α :=
  (textAs "variant identifier").check fun s =>
    match names.find? (·.1 == s) with
    | some e => .ok e.2
    | none => .error (.unknownVariant s (names.map (·.1)))

/-- The word for no value. -/
def nothing : Scan Unit := fun cs =>
  match skipBlanks cs with
  | 'n' :: rest => afterWord "ull" () rest
  | other => .error (mismatch "unit" other)

/-- The form of a choice as an object, after its opening brace. -/
def choiceObject {α : Type} (names : List (String × α)) : Reader α := fun depth => do
  let a ← named names depth
  colon
  nothing
  fun cs => match skipBlanks cs with
    | '}' :: rest => .ok (a, rest)
    | [] => .error .eofInObject
    | _ => .error .expectedValue

/-- A choice between names. -/
def choice {α : Type} (names : List (String × α)) : Reader α := fun depth cs =>
  match skipBlanks cs with
  | '"' :: rest => named names depth ('"' :: rest)
  | '{' :: rest => nested (choiceObject names) depth rest
  | [] => .error .eofInValue
  | _ => .error .expectedValue

end Roster.Json
