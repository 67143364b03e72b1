import SchemaDialogue.Command.Log
import SchemaDialogue.Dialogue.Translate
import SchemaDialogue.Endpoint.Exchange

/-!
# Logging conversations

A conversation with an endpoint is logged as it goes: each prompt, each retry, each answer and what
becomes of it. The log is kept beside the conversation. It is written by what carries the requests
and by what asks for completions, so the conversation itself is the same with and without it.
-/

namespace SchemaDialogue

/-- The log of a conversation so far, with what its next lines need. -/
structure ConversationLog where
  events : List LogEvent := []
  /-- How many repairs were asked for. -/
  repairs : Nat := 0
  /-- How many pauses there were since the last prompt. -/
  pauses : Nat := 0
  /-- The wording of the last failure of the endpoint. -/
  failure : String := ""

namespace ConversationLog

def note (log : ConversationLog) (level : LogLevel) (part message : String)
    (fields : List (String × String)) : ConversationLog :=
  { log with events := log.events ++ [⟨level, "json_tx::" ++ part, message, fields⟩] }

/-- A prompt of some sections is put to a model. -/
def asked (log : ConversationLog) (typeName modelName : String) (sections : Nat) :
    ConversationLog :=
  let log := log.note .debug "translator" "awaiting model"
    [("type_name", Text.quoted typeName), ("attempt", toString (log.repairs + 1)),
      ("sections", toString sections)]
  let log := log.note .debug "openai" "requesting completion"
    [("model", Text.quoted modelName), ("sections", toString sections)]
  { log with pauses := 0 }

/-- A request was delivered. -/
def delivered (log : ConversationLog) (request : CompletionRequest) (delivery : Delivery) :
    ConversationLog :=
  match delivery.result request with
  | .ok _ => log
  | .error e =>
    let log := { log with failure := e.message }
    match delivery, e with
    | .response status body, .http _ _ =>
      log.note .debug "openai" "model endpoint returned an error"
        [("status", toString status), ("body", body)]
    | _, _ => log

/-- There is a pause before a retry. -/
def paused (log : ConversationLog) (retries pause : Nat) : ConversationLog :=
  let log := { log with pauses := log.pauses + 1 }
  log.note .warn "retry" ("transient model failure, retrying: " ++ log.failure)
    [("attempt", toString log.pauses), ("retries", toString retries),
      ("delay_ms", toString pause)]

/-- An answer was judged, when a number of repairs may be asked for. -/
def judged {α : Type} (log : ConversationLog) (typeName : String) (maxRepairs : Nat) :
    Except TranslateError α → ConversationLog
  | .ok _ =>
    log.note .info "translator" "translation succeeded"
      [("type_name", Text.quoted typeName), ("repairs", toString log.repairs)]
  | .error e =>
    if maxRepairs ≤ log.repairs then
      log.note .info "translator" ("translation failed: " ++ e.message)
        [("type_name", Text.quoted typeName), ("repairs", toString log.repairs)]
    else
      let log := { log with repairs := log.repairs + 1 }
      log.note .debug "translator" ("response rejected, requesting repair: " ++ e.message)
        [("type_name", Text.quoted typeName), ("repairs", toString log.repairs)]

variable {m : Type → Type} [Monad m]

/-- A transport that logs what it delivers and when it pauses. -/
def transport (retries : Nat) (t : Transport m) : Transport (StateT ConversationLog m) where
  send request := do
    let delivery ← t.send request
    modify (·.delivered request delivery)
    return delivery
  sleep pause := do
    modify (·.paused retries pause)
    t.sleep pause

/-- Ask an endpoint for a completion, and log how a translator takes the answer. -/
def ask {α : Type} (translator : Translator α) (config : ModelConfig) (t : Transport m)
    (prompt : List Section) : StateT ConversationLog m (Except ModelError String) := do
  let typeName := translator.schema.typeName
  modify (·.asked typeName config.modelName prompt.length)
  let answer ← config.complete (transport config.retry.retries t) prompt
  match answer with
  | .ok response =>
    modify (·.judged typeName translator.options.maxRepairAttempts (translator.judge response))
  | .error _ => pure ()
  return answer

end ConversationLog

/-- Translate a request by an endpoint. What is logged comes with the result. -/
def Translator.translateLogged {α : Type} {m : Type → Type} [Monad m] (t : Translator α)
    (config : ModelConfig) (transport : Transport m) (request : String) :
    m (Except TranslateError α × List LogEvent) := do
  let (result, log) ← (t.translate (ConversationLog.ask t config transport) [] request).run {}
  return (result, log.events)

end SchemaDialogue
