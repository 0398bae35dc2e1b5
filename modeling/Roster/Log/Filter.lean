import Roster.Error
import Roster.Log.Event
import Roster.Text.Blank
import Roster.Text.Letters
import Roster.Text.Pieces

/-!
# Log filters

Which events are logged. A filter is a list of directives with commas between them, such as
`info,directory=debug`: a level, or a target with a level for the events about it. A directive may also
be limited to a span or to events with a field, as in `directory[span{field=value}]=debug`.

* `Directive.ofText` reads a directive and `Filter.ofText` a filter.
* `Filter.passes` says whether an event is logged: the most specific of the directives that concern
  the event decides.
-/

namespace Roster.Log

open Roster.Text

/-! ### Directives -/

/-- Up to which level events are logged; nothing if there is none. -/
abbrev Limit := Option Level

/-- Whether events at a level are logged. -/
def Limit.allows (limit : Limit) (level : Level) : Bool := limit.any (level.rank ≤ ·.rank)

/-- The limits by name, each in the place of its number. -/
def Limit.names : List (String × Limit) :=
  [("off", none), ("error", some .error), ("warn", some .warn), ("info", some .info),
    ("debug", some .debug), ("trace", some .trace)]

/-- The limit that a number or a name in either case denotes. -/
def Limit.ofText? (cs : List Char) : Option Limit :=
  let byName := (Limit.names.find? fun n => n.1.toList = cs.map Char.toLower).map (·.2)
  match natOfText? cs with
  | some n => (Limit.names[n]?).map (·.2)
  | none => byName

/-- Why a text is no filter. -/
inductive FilterError where
  | badDirective
  | badLevel
  deriving DecidableEq, Repr

/-- The reason in words. -/
def FilterError.message : FilterError → String
  | .badDirective => "invalid filter directive"
  | .badLevel => "error parsing level filter: expected one of \"off\", \"error\", \"warn\", \"info\", " ++
      "\"debug\", \"trace\", or a number 0-5"

/-- A part of a filter. -/
structure Directive where
  /-- What the targets of the events start with. -/
  target : Option (List Char)
  /-- The span in which the events occur. -/
  span : Option (List Char)
  /-- A field that the events have. -/
  field : Option (List Char)
  /-- Whether the field has to have a certain value. -/
  asksValue : Bool
  limit : Limit
  deriving DecidableEq, Repr

namespace Directive

/-- The directive that limits nothing. -/
def unlimited : Directive := ⟨none, none, none, false, some .trace⟩

/-- Where reading a directive has come to; parts are known by where they start. -/
inductive Stage where
  | start
  | word (since : Nat)
  | span (since : Nat)
  | field (since : Nat)
  | fieldEnd
  | afterSpan
  | limit (since : Nat)
  deriving DecidableEq, Repr

/-- Whether a directive can start with a character. -/
def canStart (c : Char) : Bool := c = '-' || c = ':' || c = '_' || isLetterOrDigit c

/-- The part of a text between two positions. -/
def part (cs : List Char) (since till : Nat) : List Char := (cs.drop since).take (till - since)

/-- A directive with the field that a part of a text asks for. -/
def withField (d : Directive) (cs : List Char) : Directive :=
  { d with field := some (cs.takeWhile (· != '=')), asksValue := cs.contains '=' }

/-- Reads the next character of a directive; `all` is the text that parts are taken from. -/
def next (all : List Char) (i : Nat) (c : Char) (d : Directive) :
    Stage → Except FilterError (Stage × Directive)
  | .start =>
    if c = '[' then .ok (.span (i + 1), d)
    else if canStart c then .ok (.word i, d) else .error .badDirective
  | .word since =>
    if c = '=' then .ok (.limit (i + 1), { d with target := some (part all since i) })
    else if c = '[' then .ok (.span (i + 1), { d with target := some (part all since i) })
    else .ok (.word since, d)
  | .span since =>
    let name := part all since i
    if c = ']' then .ok (.afterSpan, { d with span := some name })
    else if c = '{' then
      .ok (.field (i + 1), { d with span := if name.isEmpty then none else some name })
    else .ok (.span since, d)
  | .field since =>
    let asked := part all since i
    if c = '}' then
      if asked.isEmpty then .error .badDirective else .ok (.fieldEnd, d.withField asked)
    else .ok (.field since, d)
  | .fieldEnd => if c = ']' then .ok (.afterSpan, d) else .error .badDirective
  | .afterSpan => if c = '=' then .ok (.limit (i + 1), d) else .error .badDirective
  | .limit since => .ok (.limit since, d)

/-- Reads the characters of a directive from a position on. -/
def readFrom (all : List Char) (i : Nat) (d : Directive) (stage : Stage) :
    List Char → Except FilterError (Stage × Directive)
  | [] => .ok (stage, d)
  | c :: rest =>
    match next all i c d stage with
    | .error e => .error e
    | .ok (stage, d) => readFrom all (i + 1) d stage rest

/-- The directive when the text has ended. A word alone is a level if there is one of that name, and
otherwise a target. -/
def finish (all : List Char) (d : Directive) : Stage → Except FilterError Directive
  | .word since =>
    let word := all.drop since
    match Limit.ofText? word with
    | some limit => .ok { d with limit := limit }
    | none => .ok { d with target := some word }
  | .limit since =>
    let name := all.drop since
    if name.isEmpty then .ok d
    else match Limit.ofText? name with
      | some limit => .ok { d with limit := limit }
      | none => .error .badLevel
  | .afterSpan => .ok d
  | _ => .error .badDirective

/-- Reads a directive. Blanks around it do not count when its parts are looked for, but the parts are
then taken from the text with the blanks. -/
def ofText (cs : List Char) : Except FilterError Directive := do
  let (stage, d) ← readFrom cs 0 unlimited .start (trim cs)
  finish cs d stage

/-- Whether the directive can decide about single events. -/
def isPlain (d : Directive) : Bool := d.span.isNone && !d.asksValue

/-- Whether the directive concerns an event. -/
def concerns (d : Directive) (e : Event) : Bool :=
  d.isPlain && d.target.all (·.isPrefixOf e.target.toList)
    && d.field.all fun f => e.fieldNames.any (·.toList = f)

/-- How specific a directive is: first counts the length of its target, then its field. -/
def precision (d : Directive) : Nat × Nat :=
  ((d.target.map fun t => (String.ofList t).utf8ByteSize + 1).getD 0, if d.field.isSome then 1 else 0)

/-- Whether a directive counts more than another one about the same event. -/
def outranks (a b : Directive) : Bool :=
  let (m, k) := a.precision
  let (n, l) := b.precision
  n < m || (n = m && (l < k || (l = k && b.field.getD [] < a.field.getD [])))

end Directive

/-! ### Filters -/

/-- A filter. -/
structure Filter where
  directives : List Directive
  deriving DecidableEq, Repr

namespace Filter

/-- The filter that lets errors pass. -/
def errorsOnly : Filter := ⟨[{ Directive.unlimited with limit := some .error }]⟩

/-- Reads a filter. Without any directive it lets errors pass. -/
def ofText (text : String) : Except FilterError Filter := do
  let directives ← ((pieces ',' text.toList).filter (!·.isEmpty)).mapM Directive.ofText
  return if directives.isEmpty then errorsOnly else ⟨directives⟩

/-- The directive that decides about an event: the most specific one, of equal ones the last. -/
def deciding? (f : Filter) (e : Event) : Option Directive :=
  (f.directives.filter (·.concerns e)).foldl
    (fun best d => if best.any (·.outranks d) then best else some d) none

/-- Whether an event is logged. -/
def passes (f : Filter) (e : Event) : Bool := (f.deciding? e).any (·.limit.allows e.level)

end Filter

end Roster.Log

namespace Roster

/-- The variable whose filter takes the place of the set level. -/
def logVariable : String := "RUST_LOG"

/-- The directive that is added to the set level: everything about the program itself is logged down
to the level `debug`. -/
def ownDirective : String := "strata=debug"

/-- The filter for the set level, unless there is another filter in its place that can be read. -/
def LogSettings.filter (s : LogSettings) (instead : Option String) : Except Failure Log.Filter :=
  match instead.bind fun text => (Log.Filter.ofText text).toOption with
  | some f => .ok f
  | none =>
    match Log.Filter.ofText (s.level ++ "," ++ ownDirective) with
    | .ok f => .ok f
    | .error e => .error (.configuration ("Invalid log level: " ++ e.message))

end Roster
