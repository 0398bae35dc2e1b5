import Roster.Text.Digits
import Roster.Text.HiddenTable

/-!
# Quoted text

A text between double quotes, as error messages and log lines show it: quotes and backslashes are
escaped, the common controls have short escapes, and every other character that would not show is
written as its code point in braces.
-/

namespace Roster.Text

/-- A character as it stands inside a quoted text. -/
def quotedChar (c : Char) : List Char :=
  match c with
  | '\x00' => ['\\', '0']
  | '\t' => ['\\', 't']
  | '\n' => ['\\', 'n']
  | '\r' => ['\\', 'r']
  | '"' => ['\\', '"']
  | '\\' => ['\\', '\\']
  | _ =>
    if hiddenSpans.holds c.toNat then ['\\', 'u', '{'] ++ hexadecimal c.toNat ++ ['}'] else [c]

/-- A text between quotes. -/
def quoted (s : String) : String :=
  String.ofList ('"' :: s.toList.flatMap quotedChar ++ ['"'])

end Roster.Text
