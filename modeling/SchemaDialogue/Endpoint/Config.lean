import SchemaDialogue.Describe.Show
import SchemaDialogue.Dialogue.Retry
import SchemaDialogue.Read.Choice
import SchemaDialogue.Text.Duration

/-!
# Configuration of a model endpoint

Where a model is reached and how: the address, the key and the way it is sent, an organization, the
sampling temperature, retries and the timeout of a request. The key is never written, and
diagnostics only show whether there is one.
-/

namespace SchemaDialogue

open Read

/-- How the key is sent. -/
inductive AuthStyle where
  /-- As a bearer token. -/
  | bearer
  /-- In a header of its own. -/
  | apiKeyHeader
deriving DecidableEq

/-- The configuration of a model endpoint. The timeout is in milliseconds. -/
structure ModelConfig where
  endpoint : String := "https://api.openai.com/v1/chat/completions"
  /-- Left out of the request when there is none. -/
  model : Option String := none
  apiKey : String := ""
  auth : AuthStyle := .bearer
  organization : Option String := none
  temperature : Binary64 := .zero false
  retry : RetryConfig := {}
  requestTimeout : Nat := 60000

namespace AuthStyle

def name : AuthStyle → String
  | bearer => "bearer"
  | apiKeyHeader => "azure_api_key"

def read : Reader AuthStyle := nameOf ([bearer, apiKeyHeader].map fun a => (a.name, a))

def display : AuthStyle → String
  | bearer => "Bearer"
  | apiKeyHeader => "AzureApiKey"

end AuthStyle

namespace ModelConfig

/-- The public endpoint with a key and a model. -/
def openai (apiKey model : String) : ModelConfig := { apiKey, model := some model }

/-- A deployment with an address of its own. -/
def azure (endpoint apiKey : String) : ModelConfig := { endpoint, apiKey, auth := .apiKeyHeader }

def form : RecordForm ModelConfig fun _ => True :=
  { expected := .record "ModelConfig"
    fields := [
      field "endpoint" .defaulted Read.text fun v c => { c with endpoint := v },
      field "model" .defaulted (Read.optional Read.text) fun v c => { c with model := v },
      field "api_key" .defaulted Read.text fun v c => { c with apiKey := v },
      field "auth" .defaulted AuthStyle.read fun v c => { c with auth := v },
      field "organization" .defaulted (Read.optional Read.text)
        fun v c => { c with organization := v },
      field "temperature" .defaulted Read.real fun v c => { c with temperature := v },
      field "retry" .defaulted RetryConfig.read fun v c => { c with retry := v },
      field "request_timeout_ms" .defaulted (natural "u64")
        fun v c => { c with requestTimeout := v }]
    blank := {} }

def read : Reader ModelConfig := record form

def optionalText : Option String → Json
  | none => .null
  | some s => .string s

/-- The JSON form of a configuration, which leaves out the key. -/
def toJson (c : ModelConfig) : Json :=
  .object [("endpoint", .string c.endpoint), ("model", optionalText c.model),
    ("auth", .string c.auth.name), ("organization", optionalText c.organization),
    ("temperature", .number (.real c.temperature)), ("retry", c.retry.toJson),
    ("request_timeout_ms", .ofNat c.requestTimeout)]

def display (c : ModelConfig) : String :=
  let quotedOption := fun s : Option String => Display.option (s.map Text.quoted)
  Display.fields "ModelConfig" [
    ("endpoint", Text.quoted c.endpoint),
    ("model", quotedOption c.model),
    ("api_key", Text.quoted (if c.apiKey = "" then "<unset>" else "<redacted>")),
    ("auth", c.auth.display),
    ("organization", quotedOption c.organization),
    ("temperature", c.temperature.write Text.doubleLayout),
    ("retry", Display.fields "RetryConfig" [
      ("retries", toString c.retry.retries),
      ("initial_backoff", Text.duration c.retry.initialBackoff),
      ("max_backoff", Text.duration c.retry.maxBackoff)]),
    ("request_timeout", Text.duration c.requestTimeout)]

end ModelConfig

end SchemaDialogue
