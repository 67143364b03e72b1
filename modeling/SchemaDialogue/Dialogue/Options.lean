import SchemaDialogue.Json.Basic
import SchemaDialogue.Read.Record

/-!
# Options of a dialogue
-/

namespace SchemaDialogue

open Read

/-- How a dialogue goes about an answer. -/
structure TranslatorOptions where
  /-- The number of repairs that are asked for after the first answer. -/
  maxRepairAttempts : Nat := 1
  /-- Members and items that are `null` are dropped before an answer is checked. -/
  stripNulls : Bool := false
deriving DecidableEq

namespace TranslatorOptions

def form : RecordForm TranslatorOptions fun _ => True :=
  { expected := .record "TranslatorOptions"
    fields := [
      field "max_repair_attempts" .defaulted (natural "usize") fun v o =>
        { o with maxRepairAttempts := v },
      field "strip_nulls" .defaulted boolean fun v o => { o with stripNulls := v }]
    blank := {} }

def read : Reader TranslatorOptions := record form

def toJson (o : TranslatorOptions) : Json :=
  .object [("max_repair_attempts", .ofNat o.maxRepairAttempts), ("strip_nulls", .bool o.stripNulls)]

end TranslatorOptions

end SchemaDialogue
