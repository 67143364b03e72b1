import SchemaDialogue.Text.Place

/-!
# Faults of a JSON text

A fault says why a text is not JSON and at which place the reader saw it.
-/

namespace SchemaDialogue

/-- Why a text is not JSON. -/
inductive FaultKind where
  | endInList
  | endInObject
  | endInString
  | endInValue
  | expectedColon
  | expectedCommaOrListEnd
  | expectedCommaOrObjectEnd
  | expectedWord
  | expectedValue
  | invalidEscape
  | invalidNumber
  | numberOutOfRange
  | invalidCodePoint
  | controlCharacter
  | keyNotString
  | loneSurrogate
  | trailingComma
  | trailingCharacters
  | cutHexEscape
  | nestingTooDeep
deriving DecidableEq, Repr

def FaultKind.message : FaultKind → String
  | endInList => "EOF while parsing a list"
  | endInObject => "EOF while parsing an object"
  | endInString => "EOF while parsing a string"
  | endInValue => "EOF while parsing a value"
  | expectedColon => "expected `:`"
  | expectedCommaOrListEnd => "expected `,` or `]`"
  | expectedCommaOrObjectEnd => "expected `,` or `\x7d`"
  | expectedWord => "expected ident"
  | expectedValue => "expected value"
  | invalidEscape => "invalid escape"
  | invalidNumber => "invalid number"
  | numberOutOfRange => "number out of range"
  | invalidCodePoint => "invalid unicode code point"
  | controlCharacter => "control character (\\u0000-\\u001F) found while parsing a string"
  | keyNotString => "key must be a string"
  | loneSurrogate => "lone leading surrogate in hex escape"
  | trailingComma => "trailing comma"
  | trailingCharacters => "trailing characters"
  | cutHexEscape => "unexpected end of hex escape"
  | nestingTooDeep => "recursion limit exceeded"

/-- A fault and its place. -/
structure Fault where
  kind : FaultKind
  place : Place
deriving DecidableEq, Repr

def Fault.message (f : Fault) : String := f.kind.message ++ f.place.suffix

end SchemaDialogue
