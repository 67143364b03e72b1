import SchemaDialogue.Describe.Host
import SchemaDialogue.Json.Print
import SchemaDialogue.Read.Choice

/-!
# Sample types: a sentiment and plain scalars
-/

namespace SchemaDialogue.Sample

open Read

inductive Sentiment where
  | negative
  | neutral
  | positive
deriving DecidableEq

/-- An answer that names a sentiment. -/
structure SentimentResponse where
  sentiment : Sentiment

/-- Scalars and containers with defaults for all of them. -/
structure Scalars where
  u : Int := 0
  i : Int := 0
  f : Binary64 := .zero false
  b : Bool := false
  o : Option String := none
  list : List (List Int) := []
  map : Entries (List Bool) := []
  pair : Option (Int × String) := none

namespace Sentiment

def name : Sentiment → String
  | negative => "negative"
  | neutral => "neutral"
  | positive => "positive"

def all : List Sentiment := [negative, neutral, positive]

def read : Reader Sentiment := nameOf (all.map fun s => (s.name, s))

end Sentiment

def sentimentResponse : HostType := .described <| Registry.register "SentimentResponse" <| pure <|
  .record {
    name := "SentimentResponse"
    doc := some <| "The following is a schema definition for determining the sentiment of a some "
      ++ "user input."
    fields := [{
      name := "sentiment"
      type := .literal (Sentiment.all.map fun s => .string s.name)
      doc := some "The sentiment of the text" }] }

namespace SentimentResponse

def read : Reader SentimentResponse :=
  record {
    expected := .record "SentimentResponse"
    fields := [field "sentiment" .required Sentiment.read fun v _ => ⟨v⟩]
    blank := ⟨.neutral⟩ }

def toJson (s : SentimentResponse) : Json := .object [("sentiment", .string s.sentiment.name)]

end SentimentResponse

namespace Scalars

/-- Read scalars; members that are none of them are refused. -/
def read : Reader Scalars :=
  record {
    expected := .record "Scalars"
    fields := [
      field "u" .defaulted (integer "u8" 0 255) fun v s => { s with u := v },
      field "i" .defaulted (integer "i16" (-32768) 32767) fun v s => { s with i := v },
      field "f" .defaulted real fun v s => { s with f := v },
      field "b" .defaulted boolean fun v s => { s with b := v },
      field "o" .defaulted (Read.optional Read.text) fun v s => { s with o := v },
      field "list" .defaulted (sequence (sequence (integer "i8" (-128) 127))) fun v s =>
        { s with list := v },
      field "map" .defaulted (mapping (sequence boolean)) fun v s => { s with map := v },
      field "pair" .defaulted (Read.optional (Read.pair (integer "u8" 0 255) Read.text)) fun v s =>
        { s with pair := v }]
    blank := {}
    closed := true }

def integerJson (n : Int) : Json := .number ((Number.ofInt? n).getD .zero)

/-- The JSON form of scalars; the mapping is written in the order of its keys. -/
def toJson (s : Scalars) : Json :=
  .object [("u", integerJson s.u), ("i", integerJson s.i), ("f", .number (.real s.f)),
    ("b", .bool s.b), ("o", (s.o.map Json.string).getD .null),
    ("list", .array (s.list.map fun row => .array (row.map integerJson))),
    ("map", .object ((s.map.mergeSort fun x y => decide (x.1 ≤ y.1)).map fun entry =>
      (entry.1, .array (entry.2.map Json.bool)))),
    ("pair", (s.pair.map fun p => Json.array [integerJson p.1, .string p.2]).getD .null)]

end Scalars

end SchemaDialogue.Sample
