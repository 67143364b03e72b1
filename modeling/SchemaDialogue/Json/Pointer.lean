import SchemaDialogue.Json.Basic
import SchemaDialogue.Text.Digits

/-!
# Pointers into JSON values

A pointer is a list of steps, each after a slash; `~1` stands for a slash and `~0` for a tilde. A
step selects a member by its key or an item by its number. The empty pointer selects the whole
value.
-/

namespace SchemaDialogue.Json

/-- The text of a step without escapes. -/
def unescapeStep : List Char → List Char
  | '~' :: '0' :: rest => '~' :: unescapeStep rest
  | '~' :: '1' :: rest => '/' :: unescapeStep rest
  | c :: rest => c :: unescapeStep rest
  | [] => []

/-- The pieces of a text between slashes. -/
def splitSteps : List Char → List (List Char)
  | [] => [[]]
  | c :: rest =>
    if c = '/' then [] :: splitSteps rest
    else
      match splitSteps rest with
      | [] => [[c]]
      | step :: steps => (c :: step) :: steps

/-- The steps of a pointer. -/
def pointerSteps? : List Char → Option (List String)
  | [] => some []
  | '/' :: rest => some ((splitSteps rest).map fun step => String.ofList (unescapeStep step))
  | _ => none

/-- The number of an item: digits without a leading zero. -/
def itemNumber? (step : String) : Option Nat :=
  match step.toList with
  | ['0'] => some 0
  | '0' :: _ => none
  | text => Text.decimal? text

/-- The member or item that a step selects. -/
def select? (value : Json) (step : String) : Option Json :=
  match value with
  | object members => Entries.find? members step
  | array items => (itemNumber? step).bind (items[·]?)
  | _ => none

/-- The value that a pointer selects. -/
def pointer? (value : Json) (pointer : String) : Option Json := do
  (← pointerSteps? pointer.toList).foldlM select? value

end SchemaDialogue.Json
