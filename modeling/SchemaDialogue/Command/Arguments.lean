import SchemaDialogue.Command.Usage
import SchemaDialogue.Text.Digits

/-!
# Commands

There are three commands: to print the declarations of a type, to validate documents against it, and
to translate a request into it.
-/

namespace SchemaDialogue

/-- The file with the descriptions, and the key of the root type in it. -/
structure TypeSettings where
  types : String
  root : String

/-- Whose endpoint is used. -/
inductive Provider where
  | openai
  | azure
deriving DecidableEq

/-- How the model is reached. The timeout is in seconds. -/
structure ModelSettings where
  provider : Provider
  apiKey : String
  model : Option String
  endpoint : Option String
  organization : Option String
  retries : Nat
  timeout : Nat

inductive Command where
  | schema (settings : TypeSettings) (out : Option String)
  | validate (settings : TypeSettings) (pointer : Option String) (inputs : List String)
  | translate (settings : TypeSettings) (request : String) (maxRepairs : Nat) (stripNulls : Bool)
    (model : ModelSettings)

namespace Provider

/-- The providers under their names. -/
def byName : List (String × Provider) := [("openai", openai), ("azure", azure)]

def ofName? (name : String) : Option Provider := byName.lookup name

end Provider

namespace Command

/-- Paths must not be empty. -/
def pathRefusal (value : String) : Option UsageError :=
  if value = "" then some .invalidValue else none

/-- Counts are numbers below 2⁶⁴. -/
def countRefusal (value : String) : Option UsageError :=
  if (Text.word64? value.toList).isSome then none else some .unreadableValue

/-- Providers are known by their names. -/
def providerRefusal (value : String) : Option UsageError :=
  if (Provider.ofName? value).isSome then none else some .invalidValue

/-- The options that all commands have. -/
def typeOptions : List OptionSpec := [
  { name := "types", required := true, refusal := pathRefusal },
  { name := "root", required := true }]

def schemaOptions : List OptionSpec :=
  typeOptions ++ [{ name := "out", short := some 'o', refusal := pathRefusal }]

def validateOptions : List OptionSpec :=
  typeOptions ++ [
    { name := "json-pointer" },
    { name := "input", short := some 'i', form := .many, required := true }]

def translateOptions : List OptionSpec :=
  typeOptions ++ [
    { name := "request", required := true },
    { name := "max-repairs", refusal := countRefusal },
    { name := "strip-nulls", form := .flag },
    { name := "provider", refusal := providerRefusal },
    { name := "api-key", required := true, fallback := some "OPENAI_API_KEY" },
    { name := "model", fallback := some "OPENAI_MODEL" },
    { name := "endpoint", fallback := some "OPENAI_ENDPOINT" },
    { name := "organization", fallback := some "OPENAI_ORGANIZATION" },
    { name := "retries", refusal := countRefusal },
    { name := "timeout-secs", refusal := countRefusal }]

/-- The type settings among the given options. -/
def typeSettings (g : Given) : TypeSettings :=
  ⟨(g.text? "types").getD "", (g.text? "root").getD ""⟩

/-- A count among the given options. -/
def count (g : Given) (name : String) (byDefault : Nat) : Nat :=
  ((g.text? name).bind fun v => Text.word64? v.toList).getD byDefault

/-- The model settings among the given options. -/
def modelSettings (g : Given) : ModelSettings where
  provider := ((g.text? "provider").bind Provider.ofName?).getD .openai
  apiKey := (g.text? "api-key").getD ""
  model := g.text? "model"
  endpoint := g.text? "endpoint"
  organization := g.text? "organization"
  retries := count g "retries" 3
  timeout := count g "timeout-secs" 60

/-- The variables that may give options their values. -/
abbrev Variables := List (String × String)

/-- The commands under their names, each with its reader. -/
def byName : List (String × (Variables → List String → Except UsageError Command)) := [
  ("schema", fun environment arguments => do
    let g ← Usage.read schemaOptions environment arguments
    pure (schema (typeSettings g) (g.text? "out"))),
  ("validate", fun environment arguments => do
    let g ← Usage.read validateOptions environment arguments
    pure (validate (typeSettings g) (g.text? "json-pointer") (g.texts "input"))),
  ("translate", fun environment arguments => do
    let g ← Usage.read translateOptions environment arguments
    pure (translate (typeSettings g) ((g.text? "request").getD "") (count g "max-repairs" 1)
      (g.has "strip-nulls") (modelSettings g)))]

/-- The name of the command that shows help. -/
def helpName : String := "help"

def isName (name : String) : Bool := name = helpName || (byName.lookup name).isSome

/-- What asking for help on commands comes to: no command has commands of its own. -/
def help : List String → UsageError
  | [] => .helpAsked
  | [name] => if isName name then .helpAsked else .noSuchCommand
  | _ => .noSuchCommand

/-- What a run of short options before the command comes to. -/
def leadingShorts : List Char → UsageError
  | 'h' :: _ => .helpAsked
  | 'V' :: _ => .versionAsked
  | _ => .unknownArgument

/-- The command of the arguments. -/
def ofArguments (environment : Variables) : List String → Except UsageError Command
  | [] => .error .nothingGiven
  | first :: rest =>
    match byName.lookup first with
    | some read => read environment rest
    | none =>
      if first = helpName then .error (help rest)
      else
        match Argument.ofText first with
        | .endOfOptions =>
          match rest with
          | [] => .error .nothingGiven
          | next :: _ => .error (if isName next then .unknownArgument else .noSuchCommand)
        | .long "help" none => .error .helpAsked
        | .long "version" none => .error .versionAsked
        | .long "help" (some _) => .error .surplusValue
        | .long "version" (some _) => .error .surplusValue
        | .long _ _ => .error .unknownArgument
        | .shorts letters => .error (leadingShorts letters)
        | .value _ => .error .noSuchCommand

/-- How to call the program. -/
def usageText : String :=
  "Usage: json-tx <" ++ String.intercalate "|" (byName.map (·.1) ++ [helpName]) ++ "> [OPTIONS]"

end Command

end SchemaDialogue
