import Roster.Number.Binary64
import Roster.Text.Quoted

/-!
# What can be wrong with a JSON text

A text can stop too early, break the grammar, or hold well-formed data of the wrong shape. `Error`
names each cause, `Error.category` sorts the causes into those three groups and `Error.message` words
them.
-/

namespace Roster.Json

open Roster.Number Roster.Text

/-- What was found where something else was expected. -/
inductive Found where
  | null
  | bool (b : Bool)
  | natural (n : Nat)
  | negative (i : Int)
  | float (x : Binary64)
  | text (s : String)
  | sequence
  | map
  deriving DecidableEq, Repr

/-- A name between grave accents. -/
def ticked (s : String) : String := "\x60" ++ s ++ "\x60"

/-- The words for what was found. -/
def Found.describe : Found → String
  | .null => "null"
  | .bool b => "boolean " ++ ticked (if b then "true" else "false")
  | .natural n => "integer " ++ ticked (String.ofList (decimal n))
  | .negative i => "integer " ++ ticked (String.ofList (decimalInt i))
  | .float x => "floating point " ++ ticked (String.ofList x.scientific)
  | .text s => "string " ++ quoted s
  | .sequence => "sequence"
  | .map => "map"

/-- The three groups of causes. -/
inductive Category where
  /-- The text ends too early. -/
  | eof
  /-- The text breaks the grammar. -/
  | grammar
  /-- The data has the wrong shape. -/
  | data
  deriving DecidableEq, Repr

/-- Why a JSON text cannot be read. -/
inductive Error where
  | eofInList
  | eofInObject
  | eofInString
  | eofInValue
  | expectedColon
  | expectedListEnd
  | expectedObjectEnd
  | expectedWord
  | expectedValue
  | invalidEscape
  | invalidNumber
  | numberOutOfRange
  | controlCharacter
  | keyNotText
  | loneSurrogate
  | unfinishedSurrogatePair
  | trailingComma
  | trailingCharacters
  | tooDeep
  | missingField (name : String)
  | duplicateField (name : String)
  | wrongType (found : Found) (expected : String)
  | wrongValue (found : Found) (expected : String)
  | wrongLength (length : Nat) (expected : String)
  | unknownVariant (name : String) (known : List String)
  /-- The value is refused by the type that it is read into. -/
  | refused (reason : String)
  deriving DecidableEq, Repr

/-- The group that a cause belongs to. -/
def Error.category : Error → Category
  | .eofInList | .eofInObject | .eofInString | .eofInValue => .eof
  | .missingField _ | .duplicateField _ | .wrongType .. | .wrongValue .. | .wrongLength ..
  | .unknownVariant .. | .refused _ => .data
  | _ => .grammar

/-- Names as alternatives: `a`, or `a` or `b`, or one of three and more. -/
def alternatives : List String → String
  | [] => "there are no variants"
  | [a] => "expected " ++ ticked a
  | [a, b] => "expected " ++ ticked a ++ " or " ++ ticked b
  | many => "expected one of " ++ ", ".intercalate (many.map ticked)

/-- The words for a cause. -/
def Error.message : Error → String
  | .eofInList => "EOF while parsing a list"
  | .eofInObject => "EOF while parsing an object"
  | .eofInString => "EOF while parsing a string"
  | .eofInValue => "EOF while parsing a value"
  | .expectedColon => "expected " ++ ticked ":"
  | .expectedListEnd => "expected " ++ ticked "," ++ " or " ++ ticked "]"
  | .expectedObjectEnd => "expected " ++ ticked "," ++ " or " ++ ticked "\x7d"
  | .expectedWord => "expected ident"
  | .expectedValue => "expected value"
  | .invalidEscape => "invalid escape"
  | .invalidNumber => "invalid number"
  | .numberOutOfRange => "number out of range"
  | .controlCharacter => "control character (\\u0000-\\u001F) found while parsing a string"
  | .keyNotText => "key must be a string"
  | .loneSurrogate => "lone leading surrogate in hex escape"
  | .unfinishedSurrogatePair => "unexpected end of hex escape"
  | .trailingComma => "trailing comma"
  | .trailingCharacters => "trailing characters"
  | .tooDeep => "recursion limit exceeded"
  | .missingField name => "missing field " ++ ticked name
  | .duplicateField name => "duplicate field " ++ ticked name
  | .wrongType found expected => "invalid type: " ++ found.describe ++ ", expected " ++ expected
  | .wrongValue found expected => "invalid value: " ++ found.describe ++ ", expected " ++ expected
  | .wrongLength length expected =>
    "invalid length " ++ String.ofList (decimal length) ++ ", expected " ++ expected
  | .unknownVariant name known => "unknown variant " ++ ticked name ++ ", " ++ alternatives known
  | .refused reason => reason

end Roster.Json
