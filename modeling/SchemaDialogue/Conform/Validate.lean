import SchemaDialogue.Conform.Check
import SchemaDialogue.Read.Basic
import SchemaDialogue.Schema

/-!
# Validating documents

A document is valid for a schema when it is JSON, its value has no findings against the root type,
and the value can be read as the type that is wanted. The first of these that fails is reported.
-/

namespace SchemaDialogue

/-- The findings about a value, outside of all definitions. -/
def Registry.findings (source : Registry) (t : TypeExpr) (value : Json) : List Finding :=
  source.check .empty expansionLimit t value

/-- Why a document is not valid. -/
inductive ValidationError where
  /-- It is not JSON, or its value cannot be read as the type that is wanted. -/
  | unreadable (failure : Failure)
  /-- There are findings. -/
  | shape (findings : List Finding)

namespace ValidationError

def message : ValidationError → String
  | unreadable failure => failure.message
  | shape findings => Violation.report (findings.map Finding.violation)

end ValidationError

namespace Schema

/-- The findings about a value as one of the root type. -/
def findings (s : Schema) (value : Json) : List Finding := s.source.findings s.rootType value

/-- Validate a value and read it. -/
def validateValue {α : Type} (s : Schema) (read : Read.Reader α) (value : Json) :
    Except ValidationError α :=
  match s.findings value with
  | [] => (read .ofValue (Draft.ofJson value)).mapError .unreadable
  | found => .error (.shape found)

def parse (text : String) : Except ValidationError Json :=
  (Json.parse text).mapError fun fault => .unreadable (.fault fault)

/-- Validate a document and read it. -/
def validate {α : Type} (s : Schema) (read : Read.Reader α) (text : String) :
    Except ValidationError α := do
  s.validateValue read (← parse text)

end Schema

end SchemaDialogue
