import Roster.Text.Digits

/-!
# Parts of TOML texts

White space, comments, keys and quoted texts. A scan reads from the start of a text and leaves the
rest; a text that breaks the grammar has no result.

* `basicText` and `literalText` read quoted texts after their opening quotes, `basicLines` and
  `literalLines` those of several lines.
* `keyPath` reads a key with points in it.
-/

namespace Roster.Toml

open Roster.Text

/-- Reads from the text that is left and leaves the rest. -/
abbrev Scan := StateT (List Char) Option

/-! ### White space -/

/-- White space within a line. -/
def isSpace (c : Char) : Bool := c = ' ' || c = '\t'

/-- Passes white space within a line. -/
def spaces : Scan Unit := fun cs => some ((), cs.dropWhile isSpace)

/-- Whether a character may stand in a comment. -/
def inComment (c : Char) : Bool := c = '\t' || (' ' ≤ c && c != '\x7f')

/-- Passes a character. -/
def letter (c : Char) : Scan Unit
  | d :: rest => if c = d then some ((), rest) else none
  | [] => none

/-- Passes the end of a line. -/
def newline : Scan Unit
  | '\n' :: rest => some ((), rest)
  | '\r' :: '\n' :: rest => some ((), rest)
  | _ => none

/-- Passes what may follow on a line: white space, a comment, and the end of the line or of the
text. -/
def lineEnd : Scan Unit := fun cs =>
  let cs := cs.dropWhile isSpace
  let cs := if cs.head? = some '#' then cs.tail.dropWhile inComment else cs
  if cs.isEmpty then some ((), []) else newline cs

/-- Passes white space, ends of lines and whole comments. -/
def gapFrom (commented : Bool) : List Char → Option (List Char)
  | [] => if commented then none else some []
  | '\n' :: rest => gapFrom false rest
  | '\r' :: '\n' :: rest => gapFrom false rest
  | c :: rest =>
    if commented then if inComment c then gapFrom true rest else none
    else if isSpace c then gapFrom false rest
    else if c = '#' then gapFrom true rest
    else some (c :: rest)

/-- `gapFrom` as a scan, outside of comments. -/
def gap : Scan Unit := fun cs => (gapFrom false cs).map fun rest => ((), rest)

/-! ### Quoted texts -/

/-- What is read of a text that goes on. -/
abbrev Body := Option (List Char × List Char)

/-- Puts a character in front of what is read. -/
def consBody (c : Char) (b : Body) : Body := b.map fun r => (c :: r.1, r.2)

/-- The character of a one-letter escape. -/
def shortEscape? : Char → Option Char
  | 'b' => some '\x08'
  | 't' => some '\t'
  | 'n' => some '\n'
  | 'f' => some '\x0c'
  | 'r' => some '\r'
  | '"' => some '"'
  | '\\' => some '\\'
  | _ => none

/-- The character with the code point that hexadecimal digits denote. -/
def escapedChar? (digits : List Char) : Option Char := do
  let values ← digits.mapM hexValue?
  let n := values.foldl (fun n v => n * 16 + v) 0
  if n.isValidChar then some (Char.ofNat n) else none

/-- Whether a character stands for itself in a text between double quotes. -/
def isBasic (c : Char) : Bool := inComment c && c != '"' && c != '\\'

/-- Reads a text after its opening double quote. -/
def basicText : List Char → Body
  | '"' :: rest => some ([], rest)
  | '\\' :: 'u' :: a :: b :: c :: d :: rest =>
    match escapedChar? [a, b, c, d] with
    | some x => consBody x (basicText rest)
    | none => none
  | '\\' :: 'U' :: a :: b :: c :: d :: e :: f :: g :: h :: rest =>
    match escapedChar? [a, b, c, d, e, f, g, h] with
    | some x => consBody x (basicText rest)
    | none => none
  | '\\' :: c :: rest =>
    match shortEscape? c with
    | some x => consBody x (basicText rest)
    | none => none
  | c :: rest => if isBasic c then consBody c (basicText rest) else none
  | [] => none

/-- Reads a text after its opening single quote. -/
def literalText : List Char → Body
  | [] => none
  | c :: rest =>
    if c = '\'' then some ([], rest)
    else if inComment c then consBody c (literalText rest) else none

/-- The text after up to two quotes that stand before the three closing ones. -/
def closing (quote : Char) : List Char → Body
  | a :: b :: rest =>
    if a = quote && b = quote then some ([quote, quote], rest)
    else if a = quote then some ([quote], b :: rest)
    else some ([], a :: b :: rest)
  | [a] => if a = quote then some ([quote], []) else some ([], [a])
  | [] => some ([], [])

/-- Whether a backslash before this text joins lines. -/
def joinsLines (cs : List Char) : Bool := (newline (cs.dropWhile isSpace)).isSome

/-- Reads a text of several lines after its opening double quotes. White space and ends of lines are
passed over while lines are being joined. -/
def basicLines (joining : Bool) : List Char → Body
  | '"' :: '"' :: '"' :: rest => closing '"' rest
  | '\r' :: '\n' :: rest =>
    if joining then basicLines true rest else consBody '\n' (basicLines false rest)
  | '\n' :: rest => if joining then basicLines true rest else consBody '\n' (basicLines false rest)
  | '\\' :: 'u' :: a :: b :: c :: d :: rest =>
    match escapedChar? [a, b, c, d] with
    | some x => consBody x (basicLines false rest)
    | none => none
  | '\\' :: 'U' :: a :: b :: c :: d :: e :: f :: g :: h :: rest =>
    match escapedChar? [a, b, c, d, e, f, g, h] with
    | some x => consBody x (basicLines false rest)
    | none => none
  | '\\' :: c :: rest =>
    match shortEscape? c with
    | some x => consBody x (basicLines false rest)
    | none => if joinsLines (c :: rest) then basicLines true (c :: rest) else none
  | c :: rest =>
    if joining && isSpace c then basicLines true rest
    else if isBasic c || c = '"' then consBody c (basicLines false rest)
    else none
  | [] => none

/-- Reads a text of several lines after its opening single quotes. -/
def literalLines : List Char → Body
  | '\'' :: '\'' :: '\'' :: rest => closing '\'' rest
  | '\r' :: '\n' :: rest => consBody '\n' (literalLines rest)
  | c :: rest => if inComment c || c = '\n' then consBody c (literalLines rest) else none
  | [] => none

/-- The text after an end of line at its start. -/
def afterNewline (cs : List Char) : List Char :=
  match newline cs with
  | some (_, rest) => rest
  | none => cs

/-- What is read as a string. -/
def bodyString (b : Body) : Option (String × List Char) := b.map fun r => (String.ofList r.1, r.2)

/-- Reads a quoted text of one line. -/
def quotedLine : Scan String
  | '"' :: rest => bodyString (basicText rest)
  | '\'' :: rest => bodyString (literalText rest)
  | _ => none

/-- Reads a quoted text. -/
def quotedText : Scan String
  | '"' :: '"' :: '"' :: rest => bodyString (basicLines false (afterNewline rest))
  | '\'' :: '\'' :: '\'' :: rest => bodyString (literalLines (afterNewline rest))
  | cs => quotedLine cs

/-! ### Keys -/

/-- Whether a character may stand in a key without quotes. -/
def inBareKey (c : Char) : Bool := isLatin c || isDigit c || c = '_' || c = '-'

/-- Reads a part of a key. -/
def simpleKey : Scan String := fun cs =>
  let bare := cs.takeWhile inBareKey
  if bare.isEmpty then quotedLine cs else some (String.ofList bare, cs.dropWhile inBareKey)

/-- Reads the parts of a key. Every part takes up text, so the length of the text is fuel enough. -/
def keyParts : Nat → Scan (List String)
  | 0 => fun _ => none
  | fuel + 1 => do
    spaces
    let part ← simpleKey
    spaces
    fun cs => match cs with
      | '.' :: rest => (keyParts fuel rest).map fun r => (part :: r.1, r.2)
      | _ => some ([part], cs)

/-- How many parts a key may have, and how many lists and tables may stand in one another. -/
def deepest : Nat := 79

/-- Reads a key: the parts before the last one, and the last one. -/
def keyPath : Scan (List String × String) := fun cs => do
  let (parts, rest) ← keyParts (cs.length + 1) cs
  let last ← parts.getLast?
  if parts.length ≤ deepest then some ((parts.dropLast, last), rest) else none

end Roster.Toml
