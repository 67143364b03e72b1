import SchemaDialogue.Describe.TypeExpr
import SchemaDialogue.Json.Print

/-!
# Findings

A finding says where in a document something is wrong, which value is to blame, and why. Findings
are reported as violations, in the words that a model is asked to mend its answer with.
-/

namespace SchemaDialogue

/-- A kind of JSON value that a type can ask for. -/
inductive Kind where
  | string
  | number
  | integer
  | boolean
  | array
  | object
deriving DecidableEq

def Kind.name : Kind → String
  | string => "string"
  | number => "number"
  | integer => "integer"
  | boolean => "boolean"
  | array => "array"
  | object => "object"

/-- Is a value of a kind? A double is no integer, whatever its value. -/
def Kind.admits : Kind → Json → Bool
  | string, .string _ => true
  | number, .number _ => true
  | integer, .number n => n.isInteger
  | boolean, .bool _ => true
  | array, .array _ => true
  | object, .object _ => true
  | _, _ => false

/-- Why a value does not conform. -/
inductive Cause where
  | wrongKind (kind : Kind)
  | notNull
  | nothingAllowed
  | unresolved (key : TypeKey)
  | tupleLength (expected actual : Nat)
  | fieldMissing
  | notPermitted
  | badKey (kind : Kind)
  | notAmong (choices : List Json)
  | noMember

/-- Why a value does not conform, at a path of member names and item numbers. -/
structure Finding where
  path : List String
  value : Json
  cause : Cause

/-- A finding in words. -/
structure Violation where
  /-- The path with dots between its segments; empty at the root. -/
  path : String
  value : Json
  message : String

namespace Cause

/-- Choices in words: commas between them and `or` before the last. -/
def choiceList : List String → String
  | [] => ""
  | [only] => only
  | [first, last] => first ++ " or " ++ last
  | first :: rest => first ++ ", " ++ choiceList rest

def message : Cause → String
  | wrongKind kind => "Input should be a valid " ++ kind.name
  | notNull => "Input should be null"
  | nothingAllowed => "No value is allowed here"
  | unresolved key => "Type `" ++ key ++ "` does not resolve to a concrete shape"
  | tupleLength expected actual =>
    "Tuple should have exactly " ++ toString expected ++ " items, got " ++ toString actual
  | fieldMissing => "Field required"
  | notPermitted => "Extra inputs are not permitted"
  | badKey kind => "Key should be a valid " ++ kind.name
  | notAmong [] => nothingAllowed.message
  | notAmong choices => "Input should be " ++ choiceList (choices.map Json.compact)
  | noMember => "Input does not match any member of the union"

end Cause

namespace Finding

/-- A finding about the value at hand. -/
def here (value : Json) (cause : Cause) : Finding := ⟨[], value, cause⟩

/-- The finding about a value that is not of a kind. -/
def unlessKind (kind : Kind) (value : Json) : List Finding :=
  if kind.admits value then [] else [here value (.wrongKind kind)]

/-- A finding as seen from one level further out. -/
def within (segment : String) (f : Finding) : Finding := { f with path := segment :: f.path }

/-- A finding in words. -/
def violation (f : Finding) : Violation :=
  ⟨String.intercalate "." f.path, f.value, f.cause.message⟩

end Finding

namespace Violation

/-- The paragraph of a violation. -/
def text (v : Violation) : String :=
  (if v.path = "" then "Root validation " else "Validation path `" ++ v.path ++ "` ") ++
    "failed for value `" ++ v.value.compact ++ "` because:\n  " ++ v.message

/-- What stands above several paragraphs. -/
def severalIssues : String :=
  "Several possible issues may have occurred with the given data."

/-- The report of violations: a paragraph for each, under a heading when there are several. -/
def report : List Violation → String
  | [] => ""
  | [only] => only.text
  | several => String.intercalate "\n\n" (severalIssues :: several.map text)

def toJson (v : Violation) : Json :=
  .object [("path", .string v.path), ("value", v.value), ("message", .string v.message)]

end Violation

end SchemaDialogue
