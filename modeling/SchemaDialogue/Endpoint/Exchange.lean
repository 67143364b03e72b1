import SchemaDialogue.Address.Read
import SchemaDialogue.Dialogue.Section
import SchemaDialogue.Endpoint.Config
import SchemaDialogue.Endpoint.Reason
import SchemaDialogue.Json.Parse
import SchemaDialogue.Json.Pointer

/-!
# Exchanges with a model endpoint

A completion is one request, repeated as the retry configuration says. The request is the same each
time; how it is delivered decides what comes of it. Delivery is a function in any monad, so that a
scripted server can take the place of the network.
-/

namespace SchemaDialogue

/-- A request for a completion. -/
structure CompletionRequest where
  address : Address
  bearer : Option String
  apiKey : Option String
  organization : Option String
  body : Json

/-- What comes of sending a request once. A response is the one that the client hands over: where it
follows redirects by itself, what is asked and answered on the way is no part of a delivery. -/
inductive Delivery where
  | response (status : Nat) (body : String)
  /-- The connection was closed without a response. -/
  | dropped
  /-- No response came in time. -/
  | timedOut
  /-- There was no connection. -/
  | refused
deriving DecidableEq

namespace CompletionRequest

/-- The first line of the request. -/
def line (r : CompletionRequest) : String := "POST " ++ r.address.target ++ " HTTP/1.1"

/-- The media type of the body. -/
def contentType : String := "application/json"

/-- May this character stand in the value of a header? -/
def isHeaderChar (c : Char) : Bool := (c ≥ ' ' && c ≠ '\x7f') || c = '\t'

/-- Can a text be sent as the value of a header? -/
def isHeaderValue (value : String) : Bool := value.toList.all isHeaderChar

/-- Is this a blank that may surround the value of a header? -/
def isHeaderBlank (c : Char) : Bool := c = ' ' || c = '\t'

/-- The value of a header as it arrives: blanks around it do not count. -/
def headerValue (value : String) : String :=
  String.ofList (((value.toList.dropWhile isHeaderBlank).reverse.dropWhile isHeaderBlank).reverse)

/-- The headers that identify the sender, with their values. -/
def identity (r : CompletionRequest) : List (String × String) :=
  let header := fun name (value : Option String) =>
    (value.map fun v => (name, headerValue v)).toList
  header "authorization" r.bearer ++ header "api-key" r.apiKey ++
    header "openai-organization" r.organization

end CompletionRequest

namespace ModelConfig

/-- The name of the model; a deployment has none of its own. -/
def modelName (c : ModelConfig) : String := c.model.getD "deployment"

def requestBody (c : ModelConfig) (prompt : List Section) : Json :=
  .object <|
    [("messages", .array (prompt.map Section.toJson)),
      ("temperature", .number (.real c.temperature)), ("n", .ofNat 1)] ++
    match c.model with
    | some model => [("model", .string model)]
    | none => []

/-- The failure of a request that cannot be built, perhaps for a given address. -/
def unbuildable (address : Option String) : ModelError :=
  .transport ("builder error" ++
    match address with
    | some a => " for url (" ++ a ++ ")"
    | none => "") false

/-- The failure of a request that cannot be sent. -/
def unsendable (address : Address) (transient : Bool) : ModelError :=
  .transport ("error sending request for url (" ++ address.text ++ ")") transient

/-- The request for the completion of a prompt. -/
def request (c : ModelConfig) (prompt : List Section) : Except ModelError CompletionRequest :=
  let bearer := if c.auth = .bearer then some ("Bearer " ++ c.apiKey) else none
  let apiKey := if c.auth = .apiKeyHeader then some c.apiKey else none
  let sendable := [bearer, apiKey, c.organization].all fun value =>
    value.all CompletionRequest.isHeaderValue
  match Address.ofText? c.endpoint with
  | none => .error (unbuildable none)
  | some address =>
    if address.host?.isNone then .error (unbuildable (some address.text))
    else if !sendable then .error (unbuildable none)
    else
      let address := address.withoutUser
      if address.isRequestable then
        .ok ⟨address, bearer, apiKey, c.organization, c.requestBody prompt⟩
      else .error (unbuildable (some address.text))

end ModelConfig

namespace Delivery

/-- The completion in a response body: the content of the first choice, which must be a text. -/
def completion (body : String) : Except ModelError String :=
  match Json.parse body with
  | .error _ => .error (.unexpectedResponse "error decoding response body")
  | .ok payload =>
    match (payload.pointer? "/choices/0/message/content").bind Json.string? with
    | some content => .ok content
    | none => .error (.unexpectedResponse payload.compact)

/-- The status of a response without a body. -/
def noContent : Nat := 204

/-- The status of a response after which the connection serves another protocol. -/
def switchingProtocols : Nat := 101

/-- Does a status end an exchange? It has three digits, and those that start with one only announce
a response, unless the connection is given up. -/
def isFinal (status : Nat) : Bool :=
  status = switchingProtocols || (200 ≤ status && status < 1000)

/-- What a delivery means for a request. -/
def result (r : CompletionRequest) : Delivery → Except ModelError String
  | response status body =>
    if !isFinal status then .error (ModelConfig.unsendable r.address false)
    else if 200 ≤ status ∧ status < 300 then completion (if status = noContent then "" else body)
    else .error (.http status (reasonPhrase status))
  | dropped => .error (ModelConfig.unsendable r.address false)
  | timedOut => .error (ModelConfig.unsendable r.address true)
  | refused => .error (ModelConfig.unsendable r.address true)

end Delivery

/-- How requests are delivered, one for each `send`, and how time passes. -/
structure Transport (m : Type → Type) where
  send : CompletionRequest → m Delivery
  sleep : Nat → m Unit

namespace ModelConfig

variable {m : Type → Type} [Monad m]

def attempt (c : ModelConfig) (transport : Transport m) (prompt : List Section) :
    m (Except ModelError String) :=
  match c.request prompt with
  | .error e => pure (.error e)
  | .ok r => do return (← transport.send r).result r

def complete (c : ModelConfig) (transport : Transport m) (prompt : List Section) :
    m (Except ModelError String) :=
  Retry.run c.retry transport.sleep (c.attempt transport prompt)

/-- The completion of a plain text, which the user says. -/
def completeText (c : ModelConfig) (transport : Transport m) (prompt : String) :
    m (Except ModelError String) :=
  c.complete transport [⟨.user, prompt⟩]

end ModelConfig

/-- A server that follows a script: its host, the deliveries that are left, and the requests that
arrived. -/
structure ScriptedServer where
  host : String
  deliveries : List Delivery
  requests : List CompletionRequest := []

namespace ScriptedServer

/-- Deliver the next of the script. Past its end, and at any other host, connections are refused and
nothing arrives. -/
def send (r : CompletionRequest) : StateM ScriptedServer Delivery := fun s =>
  match s.deliveries with
  | [] => (.refused, s)
  | d :: rest =>
    if r.address.server ≠ s.host then (.refused, s)
    -- A refused connection uses up its place in the script, but no request arrives.
    else if d = .refused then (.refused, { s with deliveries := rest })
    else (d, { s with deliveries := rest, requests := s.requests ++ [r] })

/-- The transport to a scripted server; time does not matter to it. -/
def transport : Transport (StateM ScriptedServer) := ⟨send, fun _ => pure ()⟩

end ScriptedServer

end SchemaDialogue
