import SchemaDialogue.Command.FieldPattern
import SchemaDialogue.Command.Log
import SchemaDialogue.Text.Alphanumeric
import SchemaDialogue.Text.Blank
import SchemaDialogue.Text.Digits

/-!
# Log filters

A filter decides which log lines are shown. It is a list of directives with commas between them.
A directive is a level, a target, or a target and a level with an equals sign between them; behind
the target, brackets may hold the name of a span and, in braces, a field and its value. Events
outside of spans are decided by the directives that name neither a span nor a value: the most
specific one that fits an event decides. The most specific has the longest target, then a field.
-/

namespace SchemaDialogue

/-- A rule of a filter: the greatest rank that is shown of the events whose target starts with a
text, inside a span and with a field when these are given. -/
structure LogDirective where
  target : String := ""
  span : Option String := none
  /-- The name of a field, and its value when the rule asks for one. -/
  field : Option (String × Option String) := none
  rank : Nat
deriving DecidableEq

/-- The rules of a filter. -/
abbrev LogFilter := List LogDirective

namespace LogDirective

/-- The ranks of the levels under their names. -/
def ranks : List (String × Nat) :=
  [("off", 0), ("error", 1), ("warn", 2), ("info", 3), ("debug", 4), ("trace", 5)]

/-- The rank that shows everything. -/
def allRanks : Nat := 5

/-- The rank that a text gives by name or number. -/
def rank? (text : List Char) : Option Nat :=
  match Text.word64? text with
  | some n => if n ≤ allRanks then some n else none
  | none => ranks.lookup (String.ofList text).toLower

/-- May the target of a directive start with this character? -/
def startsTarget (c : Char) : Bool := Text.isAlphanumeric c || c = '-' || c = ':' || c = '_'

/-- Does this character end a target? -/
def endsTarget (c : Char) : Bool := c = '=' || c = '['

/-- Does this character end the name of a span? -/
def endsSpan (c : Char) : Bool := c = ']' || c = '{'

/-- The name of a field, and what describes its value behind an equals sign. -/
def field? (text : List Char) : Option (String × Option String) :=
  let name := String.ofList (text.takeWhile (· ≠ '='))
  match text.dropWhile (· ≠ '=') with
  | [] => some (name, none)
  | _ :: behind =>
    let value := behind.takeWhile (· ≠ '=')
    if FieldPattern.describesValue value then some (name, some (String.ofList value)) else none

/-- A directive is read in two texts: its shape is that of the text without blanks around it, but
its parts are what stands at the same places of the whole text. -/
structure Source where
  whole : List Char
  shape : List Char

namespace Source

/-- The part between two places. -/
def part (s : Source) (start stop : Nat) : List Char := (s.whole.take stop).drop start

/-- The rank that is given from a place on; everything when nothing is. -/
def rankFrom? (s : Source) (start : Nat) : Option Nat :=
  match s.whole.drop start with
  | [] => some allRanks
  | text => rank? text

/-- The rank that is given behind a bracket: after an equals sign, or none. -/
def rankBehind? (s : Source) (start : Nat) : Option Nat :=
  match s.shape.drop start with
  | [] => some allRanks
  | '=' :: _ => s.rankFrom? (start + 1)
  | _ => none

/-- A directive with a bracket that opens before a place and a target before it. -/
def bracket? (s : Source) (target : String) (start : Nat) : Option LogDirective :=
  let stop := start + ((s.shape.drop start).takeWhile (!endsSpan ·)).length
  let span := String.ofList (s.part start stop)
  match s.shape.drop stop with
  | ']' :: _ => do pure ⟨target, some span, none, ← s.rankBehind? (stop + 1)⟩
  | '{' :: inner =>
    let close := stop + 1 + (inner.takeWhile (· ≠ '}')).length
    match s.shape.drop close with
    | '}' :: ']' :: _ =>
      if close = stop + 1 then none
      else do
        let field ← field? (s.part (stop + 1) close)
        let rank ← s.rankBehind? (close + 2)
        pure ⟨target, if start = stop then none else some span, some field, rank⟩
    | _ => none
  | _ => none

/-- The directive of a text. -/
def directive? (s : Source) : Option LogDirective :=
  match s.shape with
  | [] => none
  | '[' :: _ => s.bracket? "" 1
  | first :: _ =>
    if !startsTarget first then none
    else
      let stop := (s.shape.takeWhile (!endsTarget ·)).length
      let target := String.ofList (s.part 0 stop)
      match s.shape.drop stop with
      | [] =>
        -- A single word is a level when it can be, and else a target.
        match rank? s.whole with
        | some rank => some { rank }
        | none => some { target := String.ofList s.whole, rank := allRanks }
      | '=' :: _ => (s.rankFrom? (stop + 1)).map fun rank => { target, rank }
      | _ => s.bracket? target (stop + 1)

end Source

/-- The directive of a text. -/
def ofText? (text : List Char) : Option LogDirective :=
  Source.directive? ⟨text, Text.trim text⟩

/-- Does the directive apply to an event outside of spans? -/
def fits (d : LogDirective) (e : LogEvent) : Bool :=
  d.span.isNone && e.target.startsWith d.target &&
    match d.field with
    | none => true
    | some (name, none) => e.hasField name
    | some (_, some _) => false

/-- What makes a directive specific: the length of its target, then its field. -/
def atMostAsSpecific (a b : LogDirective) : Bool :=
  a.target.length < b.target.length ||
    (a.target.length = b.target.length &&
      match a.field, b.field with
      | none, _ => true
      | some _, none => false
      | some (x, _), some (y, _) => x ≤ y)

end LogDirective

namespace LogFilter

/-- The filter that is used when none is given. -/
def byDefault : LogFilter := [{ rank := 2 }]

/-- The filter of a setting. Without directives only errors are shown; a setting that is no filter
counts as none. -/
def ofSetting (setting : Option String) : LogFilter :=
  match setting with
  | none => byDefault
  | some text =>
    match ((text.splitOn ",").filter (· ≠ "")).mapM fun d => LogDirective.ofText? d.toList with
    | none => byDefault
    | some [] => [{ rank := 1 }]
    | some directives => directives

/-- The directive that decides about an event: of those that fit, the most specific, and of equals
the last. -/
def deciding (filter : LogFilter) (e : LogEvent) : Option LogDirective :=
  (filter.filter (·.fits e)).foldl
    (fun best d =>
      match best with
      | some b => if b.atMostAsSpecific d then some d else some b
      | none => some d) none

/-- Is an event shown? -/
def shows (filter : LogFilter) (e : LogEvent) : Bool :=
  match filter.deciding e with
  | some d => e.level.rank ≤ d.rank
  | none => false

end LogFilter

end SchemaDialogue
