import SchemaDialogue.Json.Number
import SchemaDialogue.Text.Quoted

/-!
# Mismatches

A mismatch says how a JSON value differs from the form of the type that is read: what was found,
what was expected, which member is missing, repeated or unknown. Each has one wording.
-/

namespace SchemaDialogue

/-- What was found, as messages show it. -/
inductive Shown where
  | null
  | bool (value : Bool)
  | number (n : Number)
  | text (s : String)
  | sequence
  | map
  | bareVariant

def Shown.message : Shown → String
  | null => "null"
  | bool true => "boolean `true`"
  | bool false => "boolean `false`"
  | number (.integer n) => "integer `" ++ toString n.value ++ "`"
  | number (.real x) => "floating point `" ++ (Number.real x).text ++ "`"
  | text s => "string " ++ Text.quoted s
  | sequence => "sequence"
  | map => "map"
  | bareVariant => "unit variant"

/-- What the form of a type expects at a place. -/
inductive Expected where
  | text
  | boolean
  | null
  | real
  | integer (kind : String)
  | sequence
  | mapping
  | tuple (size : Nat)
  | record (name : String)
  | variantRecord (name : String)
  | elements (of : Expected) (count : Nat)
  | fewerElements
  | sequenceOf (count : Nat)
  | tagged (name : String)
  | variantName
  | textOrMapping
  | singleMember
  | variantWithValue
  | variantWithMembers

/-- A count of things. -/
def counted (n : Nat) (thing : String) : String :=
  toString n ++ " " ++ thing ++ (if n = 1 then "" else "s")

def Expected.message : Expected → String
  | text => "a string"
  | boolean => "a boolean"
  | null => "unit"
  | real => "f64"
  | integer kind => kind
  | sequence => "a sequence"
  | mapping => "a map"
  | tuple size => "a tuple of size " ++ toString size
  | record name => "struct " ++ name
  | variantRecord name => "struct variant " ++ name
  | elements whole count => whole.message ++ " with " ++ counted count "element"
  | fewerElements => "fewer elements in array"
  | sequenceOf count => counted count "element" ++ " in sequence"
  | tagged name => "internally tagged enum " ++ name
  | variantName => "variant identifier"
  | textOrMapping => "string or map"
  | singleMember => "map with a single key"
  | variantWithValue => "newtype variant"
  | variantWithMembers => "struct variant"

/-- How a value differs from the form that is read. -/
inductive Mismatch where
  | wrongType (found : Shown) (expected : Expected)
  | wrongValue (found : Shown) (expected : Expected)
  | wrongLength (length : Nat) (expected : Expected)
  | missingField (name : String)
  | duplicateField (name : String)
  | unknownField (name : String) (known : List String)
  | unknownVariant (name : String) (known : List String)
  | noAlternative (type : String)

/-- A name between backticks. -/
def ticked (name : String) : String := "`" ++ name ++ "`"

/-- The names that would have been right. -/
def oneOf (what : String) : List String → String
  | [] => "there are no " ++ what
  | [a] => "expected " ++ ticked a
  | [a, b] => "expected " ++ ticked a ++ " or " ++ ticked b
  | names => "expected one of " ++ String.intercalate ", " (names.map ticked)

def Mismatch.message : Mismatch → String
  | wrongType found expected =>
    "invalid type: " ++ found.message ++ ", expected " ++ expected.message
  | wrongValue found expected =>
    "invalid value: " ++ found.message ++ ", expected " ++ expected.message
  | wrongLength length expected =>
    "invalid length " ++ toString length ++ ", expected " ++ expected.message
  | missingField name => "missing field " ++ ticked name
  | duplicateField name => "duplicate field " ++ ticked name
  | unknownField name known => "unknown field " ++ ticked name ++ ", " ++ oneOf "fields" known
  | unknownVariant name known => "unknown variant " ++ ticked name ++ ", " ++ oneOf "variants" known
  | noAlternative type => "data did not match any variant of untagged enum " ++ type

end SchemaDialogue
