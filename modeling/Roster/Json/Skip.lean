import Roster.Json.Reader

/-!
# Passing over a JSON value

Values of unknown fields are passed over without being kept. The grammar is checked, though less
strictly than for values that are kept: nesting has no limit, escapes need not denote characters and
numbers may be of any size.

* `skip` passes over one value; the brackets that are open are its only state.
-/

namespace Roster.Json

open Roster.Text

/-- What is open around the present place. -/
inductive Bracket where
  | list
  | object
  deriving DecidableEq, Repr

/-- The error when the text ends inside the bracket. -/
def Bracket.eof : Bracket → Error
  | .list => .eofInList
  | .object => .eofInObject

/-- The error when neither a comma nor the end of the bracket follows a value. -/
def Bracket.expectedEnd : Bracket → Error
  | .list => .expectedListEnd
  | .object => .expectedObjectEnd

/-- The character that closes the bracket. -/
def Bracket.closing : Bracket → Char
  | .list => ']'
  | .object => '}'

/-- Passes over at least one digit. -/
def skipDigits : Scan Unit := fun cs =>
  if cs.head?.any isDigit then .ok ((), cs.dropWhile isDigit) else .error .invalidNumber

/-- Passes over the sign of an exponent. -/
def skipSign : List Char → List Char
  | '+' :: rest => rest
  | '-' :: rest => rest
  | rest => rest

/-- Passes over an exponent, if there is one. -/
def skipExponent : Scan Unit := fun cs =>
  match cs with
  | 'e' :: rest => skipDigits (skipSign rest)
  | 'E' :: rest => skipDigits (skipSign rest)
  | rest => .ok ((), rest)

/-- Passes over the places after a point, if there is one. -/
def skipPlaces : Scan Unit := fun cs =>
  match cs with
  | '.' :: rest => skipDigits rest
  | rest => .ok ((), rest)

/-- Passes over the digits before the point: a single zero, or digits that do not start with one. -/
def skipWhole : Scan Unit := fun cs =>
  match cs with
  | '0' :: rest => if rest.head?.any isDigit then .error .invalidNumber else .ok ((), rest)
  | other => skipDigits other

/-- Passes over a number after its sign. -/
def skipNumber : Scan Unit := do
  skipWhole
  skipPlaces
  skipExponent

/-- Passes over a text after its opening quote. -/
def skipText : Scan Unit := fun cs => (textBody false cs).map fun r => ((), r.2)

/-- Passes over a key and its colon. -/
def skipKey : Scan Unit := fun cs =>
  match skipBlanks cs with
  | [] => .error .eofInObject
  | '"' :: rest => (do skipText; colon : Scan Unit) rest
  | _ => .error .keyNotText

/-- After a value: closes brackets up to a comma and gives the brackets that are still open. None is
left when the outermost one has been closed. -/
def closeBrackets : List Bracket → Scan (List Bracket)
  | [], cs => .ok ([], cs)
  | b :: outer, cs =>
    match skipBlanks cs with
    | [] => .error b.eof
    | c :: rest =>
      if c = ',' then .ok (b :: outer, rest)
      else if c = b.closing then closeBrackets outer rest
      else .error b.expectedEnd

/-- After an opening bracket: the brackets that are open at the next value. -/
def afterOpening (b : Bracket) (outer : List Bracket) : Scan (List Bracket) := fun cs =>
  match skipBlanks cs with
  | [] => .error b.eof
  | c :: rest => if c = b.closing then closeBrackets outer rest else .ok (b :: outer, c :: rest)

/-- Passes over a value that stands by itself, or over the opening bracket of one, and gives the
brackets that are open at the next value. -/
def skipPart (outer : List Bracket) : Scan (List Bracket) := fun cs =>
  let after (scan : Scan Unit) : Scan (List Bracket) := do scan; closeBrackets outer
  match skipBlanks cs with
  | [] => .error .eofInValue
  | 'n' :: rest => after (word "ull".toList) rest
  | 't' :: rest => after (word "rue".toList) rest
  | 'f' :: rest => after (word "alse".toList) rest
  | '"' :: rest => after skipText rest
  | '[' :: rest => afterOpening .list outer rest
  | '{' :: rest => afterOpening .object outer rest
  | '-' :: rest => after skipNumber rest
  | c :: rest => if isDigit c then after skipNumber (c :: rest) else .error .expectedValue

/-- Passes over values until no bracket is open. Every step takes up text, so the length of the text
is fuel enough. -/
def skipFrom : Nat → List Bracket → Scan Unit
  | 0, _ => throw .eofInValue
  | fuel + 1, outer => do
    match ← skipPart outer with
    | [] => return ()
    | .list :: outer => skipFrom fuel (.list :: outer)
    | .object :: outer =>
      skipKey
      skipFrom fuel (.object :: outer)

/-- Passes over one value. -/
def skip : Scan Unit := fun cs => skipFrom (cs.length + 1) [] cs

end Roster.Json
