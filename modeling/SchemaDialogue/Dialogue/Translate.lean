import SchemaDialogue.Conform.Validate
import SchemaDialogue.Dialogue.ModelError
import SchemaDialogue.Dialogue.Options
import SchemaDialogue.Dialogue.Section
import SchemaDialogue.Dialogue.Wording
import SchemaDialogue.Json.Strip

/-!
# Translating requests

A request is put to a model, and the answer is validated. While an answer is rejected and repairs
are left, the answer and a prompt that says what is wrong with it are added to the conversation, and
the model is asked again. A failure of the model ends the conversation: it is not repaired.

The model is a function in any monad from a prompt to an answer, so that a script can take its
place.
-/

namespace SchemaDialogue

/-- Why a request was not translated. -/
inductive TranslateError where
  | model (e : ModelError)
  /-- The response has no text that resembles JSON. -/
  | extraction (response : String)
  | invalid (e : ValidationError)

namespace TranslateError

def message : TranslateError → String
  | model e => e.message
  | extraction response =>
    "Response did not contain any text resembling JSON.\nResponse was:\n" ++ response
  | invalid e => e.message

/-- Can the failure be answered by a repair? -/
def isRepairable : TranslateError → Bool
  | model _ => false
  | _ => true

end TranslateError

/-- The characters from the first opening brace to the last closing brace, if that is after it. -/
def bracedPart? (text : List Char) : Option (List Char) :=
  match ((text.dropWhile (· ≠ '{')).reverse.dropWhile (· ≠ '}')).reverse with
  | [] => none
  | part => some part

/-- The part of a response that resembles JSON. -/
def extractJson (response : String) : Option String :=
  (bracedPart? response.toList).map String.ofList

/-- What a request is translated into, and how. -/
structure Translator (α : Type) where
  schema : Schema
  /-- How a valid value is read. -/
  read : Read.Reader α
  options : TranslatorOptions := {}
  wording : Wording := .standard

namespace Translator

variable {α : Type}

def requestPrompt (t : Translator α) (request : String) : String :=
  t.wording.request t.schema request

def repairPrompt (t : Translator α) (failure : String) : String :=
  t.wording.repair t.schema failure

/-- The value that an answer holds, or what is wrong with it. -/
def judge (t : Translator α) (response : String) : Except TranslateError α :=
  match extractJson response with
  | none => .error (.extraction response)
  | some candidate => do
    let value ← (Schema.parse candidate).mapError .invalid
    -- Nulls go before validation: they stand for members that are left out.
    let value := if t.options.stripNulls then value.stripNulls else value
    (t.schema.validateValue t.read value).mapError .invalid

section

variable {m : Type → Type} [Monad m]

/-- Ask, and ask again with a repair while answers are rejected and repairs are left. -/
def converse (t : Translator α) (ask : List Section → m (Except ModelError String)) :
    Nat → List Section → m (Except TranslateError α)
  | repairs, prompt => do
    match ← ask prompt with
    | .error e => pure (.error (.model e))
    | .ok response =>
      match t.judge response with
      | .ok value => pure (.ok value)
      | .error e =>
        match repairs with
        | 0 => pure (.error e)
        | repairs + 1 =>
          -- The rejected answer stays in the conversation, before the repair it led to.
          converse t ask repairs <|
            prompt ++ [⟨.assistant, response⟩, ⟨.user, t.repairPrompt e.message⟩]

/-- Translate a request that follows a preamble. -/
def translate (t : Translator α) (ask : List Section → m (Except ModelError String))
    (preamble : List Section) (request : String) : m (Except TranslateError α) :=
  t.converse ask t.options.maxRepairAttempts (preamble ++ [⟨.user, t.requestPrompt request⟩])

end

def display (t : Translator α) (modelName : String) : String :=
  Display.fields "Translator" [
    ("model", Text.quoted modelName),
    ("validator", t.schema.displayValidator),
    ("options", Display.fields "TranslatorOptions" [
      ("max_repair_attempts", toString t.options.maxRepairAttempts),
      ("strip_nulls", toString t.options.stripNulls)])]

end Translator

end SchemaDialogue
