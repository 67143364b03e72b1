import SchemaDialogue.Schema

/-!
# Log lines

Compiling a schema is logged: that its declarations were found, and a warning for each thing that
could not be expressed. The message of a line is made harmless for a terminal; its fields are not.
-/

namespace SchemaDialogue

/-- How urgent a log line is. -/
inductive LogLevel where
  | error
  | warn
  | info
  | debug
  | trace
deriving DecidableEq

namespace LogLevel

/-- The rank of a level; less is more urgent. -/
def rank : LogLevel → Nat
  | error => 1
  | warn => 2
  | info => 3
  | debug => 4
  | trace => 5

/-- The name of a level, as wide as the widest. -/
def label : LogLevel → String
  | error => "ERROR"
  | warn => " WARN"
  | info => " INFO"
  | debug => "DEBUG"
  | trace => "TRACE"

end LogLevel

/-- A log line without its time. -/
structure LogEvent where
  level : LogLevel
  target : String
  message : String
  fields : List (String × String)

namespace LogEvent

/-- The name under which an event has its message among its fields. -/
def messageField : String := "message"

/-- Does the event have a field of this name? -/
def hasField (e : LogEvent) (name : String) : Bool :=
  name = messageField || e.fields.any (·.1 = name)

/-- A character of a message. Those that start or end commands to a terminal are spelt out. -/
def harmless (c : Char) : List Char :=
  match c with
  | '\x1b' => ['\\', 'x', '1', 'b']
  | '\x07' => ['\\', 'x', '0', '7']
  | '\x08' => ['\\', 'x', '0', '8']
  | '\x0c' => ['\\', 'x', '0', 'c']
  | '\x7f' => ['\\', 'x', '7', 'f']
  | c => if 0x80 ≤ c.toNat ∧ c.toNat ≤ 0x9f then Text.codePointEscape c else [c]

/-- The line of an event at a time. -/
def line (e : LogEvent) (time : String) : String :=
  time ++ " " ++ e.level.label ++ " " ++ e.target ++ ": " ++
    String.ofList (e.message.toList.flatMap harmless) ++
    String.join (e.fields.map fun f => " " ++ f.1 ++ "=" ++ f.2)

end LogEvent

namespace Schema

/-- What is logged when a schema is compiled. -/
def logEvents (s : Schema) : List LogEvent :=
  { level := .debug
    target := "json_tx::lower"
    message := "schema graph built"
    fields := [("root", s.root), ("declarations", toString s.graph.declarations.length),
      ("errors", toString s.errors.length)] } ::
  s.errors.map fun e =>
    { level := .warn
      target := "json_tx::schema"
      message := "schema conversion: " ++ e
      fields := [("type_name", s.typeName)] }

end Schema

end SchemaDialogue
