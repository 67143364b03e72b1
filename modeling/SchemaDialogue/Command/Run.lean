import SchemaDialogue.Command.Arguments
import SchemaDialogue.Command.ConversationLog
import SchemaDialogue.Command.LogFilter
import SchemaDialogue.Command.Paint
import SchemaDialogue.Describe.Form
import SchemaDialogue.Files.Search

/-!
# Running commands

A command reads the descriptions first, and fails if they cannot be read or do not describe the
root. What it prints is known only when it has run to its end, so a command that fails prints
nothing but its failure. Validating goes through all documents, whatever is wrong with them.
-/

namespace SchemaDialogue

/-- Why a command failed. -/
inductive CommandError where
  | unreadableTypes (path : String) (e : FileError)
  | invalidTypes (path : String) (e : Failure)
  | undescribedRoot (root path : String)
  | missingModel
  | missingEndpoint
  | directory (e : FileError)
  | unwritable (path : String) (e : FileError)
  | pattern (e : PatternError)
  | noMatch (pattern : String)
  | dialogue (e : TranslateError)

/-- The wording of a failure, with its cause after a colon. -/
def CommandError.message : CommandError → String
  | unreadableTypes path e => "failed to read type descriptions " ++ path ++ ": " ++ e.message
  | invalidTypes path e => "invalid type descriptions in " ++ path ++ ": " ++ e.message
  | undescribedRoot root path => "root type '" ++ root ++ "' is not described in " ++ path
  | missingModel => "--model (or OPENAI_MODEL) is required"
  | missingEndpoint => "--endpoint (or OPENAI_ENDPOINT) is required for azure"
  | directory e => e.message
  | unwritable path e => "failed to write " ++ path ++ ": " ++ e.message
  | pattern e => e.message
  | noMatch text => "glob pattern matched no files: " ++ text
  | dialogue e => e.message

/-- What a command prints, and whether it found all in order. -/
structure CommandReport where
  output : String
  success : Bool

/-- A run of a command: what is logged, and what comes of it. -/
structure CommandRun where
  log : List LogEvent := []
  outcome : Except CommandError CommandReport

/-- What commands act on, and whether they are asked to paint what they write. -/
structure Surroundings (m : Type → Type) where
  files : FileSystem m
  transport : Transport m
  painted : Bool := false

namespace ModelSettings

/-- The configuration of the endpoint. -/
def config (s : ModelSettings) : Except CommandError ModelConfig := do
  let base ← match s.provider with
    | .openai =>
      match s.model with
      | none => .error .missingModel
      | some model =>
        let config := ModelConfig.openai s.apiKey model
        pure { config with endpoint := s.endpoint.getD config.endpoint }
    | .azure =>
      match s.endpoint with
      | none => .error .missingEndpoint
      | some endpoint => pure { ModelConfig.azure endpoint s.apiKey with model := s.model }
  pure { base with
    organization := s.organization
    requestTimeout := s.timeout * 1000
    retry := { retries := s.retries } }

end ModelSettings

namespace CommandRun

variable {m : Type → Type} [Monad m]

def failed (e : CommandError) (log : List LogEvent := []) : CommandRun := ⟨log, .error e⟩

/-- A run that came to its end. -/
def done (output : String) (success : Bool) (log : List LogEvent := []) : CommandRun :=
  ⟨log, .ok ⟨output, success⟩⟩

/-- The schema of the type settings. -/
def compile (world : Surroundings m) (settings : TypeSettings) :
    m (Except CommandError Schema) := do
  match ← world.files.read settings.types with
  | .error e => pure (.error (.unreadableTypes settings.types e))
  | .ok bytes =>
    match Registry.read .ofText (Draft.ofSymbols (Symbol.ofBytes bytes.toList)) with
    | .error e => pure (.error (.invalidTypes settings.types e))
    | .ok registry =>
      if registry.contains settings.root then pure (.ok ⟨registry, settings.root⟩)
      else pure (.error (.undescribedRoot settings.root settings.types))

/-- Write a file, and make the directories around it. -/
def writeOutput (world : Surroundings m) (path text : String) : m (Except CommandError Unit) := do
  let around ← match (PathParts.ofText path).parent? with
    | none => pure (.ok ())
    | some parent => world.files.makeDirectories parent
  match around with
  | .error e => pure (.error (.directory e))
  | .ok () => return (← world.files.write path text).mapError (.unwritable path)

/-- Is this a character that makes a path a pattern? -/
def isPatternChar (c : Char) : Bool := "*?[\x7b".toList.contains c

/-- The paths that an input names, or matches as a pattern. -/
def expandInput (world : Surroundings m) (input : String) :
    m (Except CommandError (List String)) := do
  if input.toList.any isPatternChar then
    match ← Search.paths world.files input with
    | .error e => pure (.error (.pattern e))
    | .ok [] => pure (.error (.noMatch input))
    | .ok paths => pure (.ok paths)
  else pure (.ok [input])

/-- The paths of all inputs, unless one has none. -/
def expandInputs (world : Surroundings m) : List String → m (Except CommandError (List String))
  | [] => pure (.ok [])
  | input :: rest => do
    match ← expandInput world input with
    | .error e => pure (.error e)
    | .ok paths => return (← expandInputs world rest).map (paths ++ ·)

/-- What is wrong with the part of a document that a pointer selects. -/
def judge (schema : Schema) (pointer : Option String) (content : Except FileError String) :
    Option String :=
  match content with
  | .error e => some ("failed to read file: " ++ e.message)
  | .ok text =>
    match Json.parse text with
    | .error fault => some ("failed to parse JSON: " ++ fault.message)
    | .ok document =>
      match pointer, document.pointer? (pointer.getD "") with
      | some p, none => some ("JSON pointer " ++ p ++ " selects nothing")
      | _, selected =>
        match schema.findings (selected.getD document) with
        | [] => none
        | findings => some (ValidationError.shape findings).message

def verdictLines (painted : Bool) (path : String) : Option String → String
  | none => Paint.green.applyIf painted "✅" ++ " " ++ path ++ "\n"
  | some message =>
    Paint.red.applyIf painted "❌" ++ " " ++ Paint.strongRed.applyIf painted path ++ "\n" ++
      message ++ "\n"

def ofCommand (world : Surroundings m) : Command → m CommandRun
  | .schema settings out => do
    match ← compile world settings with
    | .error e => pure (failed e)
    | .ok schema =>
      match out with
      | none => pure (done schema.text true schema.logEvents)
      | some path =>
        match ← writeOutput world path schema.text with
        | .error e => pure (failed e schema.logEvents)
        | .ok () => pure (done "" true schema.logEvents)
  | .validate settings pointer inputs => do
    match ← compile world settings with
    | .error e => pure (failed e)
    | .ok schema =>
      match ← expandInputs world inputs with
      | .error e => pure (failed e schema.logEvents)
      | .ok paths => do
        let verdicts ← paths.mapM fun path => do
          return (path, judge schema pointer (← world.files.readText path))
        let lines := verdicts.map fun v => verdictLines world.painted v.1 v.2
        pure (done (String.join lines) (verdicts.all (·.2.isNone)) schema.logEvents)
  | .translate settings request maxRepairs stripNulls model => do
    match ← compile world settings with
    | .error e => pure (failed e)
    | .ok schema =>
      match model.config with
      | .error e => pure (failed e schema.logEvents)
      | .ok config =>
        let translator : Translator Json :=
          { schema, read := Read.json, options := ⟨maxRepairs, stripNulls⟩ }
        let (result, log) ← translator.translateLogged config world.transport request
        let log := schema.logEvents ++ log
        match result with
        | .error e => pure (failed (.dialogue e) log)
        | .ok value => pure (done (value.indented ++ "\n") true log)

/-- The exit code of a run. -/
def exitCode (r : CommandRun) : Nat :=
  match r.outcome with
  | .ok report => if report.success then 0 else 1
  | .error _ => 1

/-- What a run writes to the output. -/
def output (r : CommandRun) : String :=
  match r.outcome with
  | .ok report => report.output
  | .error _ => ""

/-- What a run writes beside the output: the log lines that are shown, and its failure. -/
def diagnostics (r : CommandRun) (painted : Bool) (filter : LogFilter) (time : String) : String :=
  String.join ((r.log.filter filter.shows).map fun e => e.line time ++ "\n") ++
    match r.outcome with
    | .ok _ => ""
    | .error e => Paint.strongRed.applyIf painted "error:" ++ " " ++ e.message ++ "\n"

end CommandRun

/-- What asking for the version shows. -/
def versionText : String := "json-tx 0.1.0\n"

end SchemaDialogue
