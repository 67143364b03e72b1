/-!
# Failures of a language model

A model fails with a status of its endpoint, with a failure of the connection, with a response that
is not a completion, or for a reason of its own. Rate limiting, temporary unavailability and
timeouts are transient: the same request may succeed later.
-/

namespace SchemaDialogue

/-- Why a model gave no answer. -/
inductive ModelError where
  | http (status : Nat) (reason : String)
  | transport (message : String) (transient : Bool)
  | unexpectedResponse (payload : String)
  | backend (message : String)
deriving DecidableEq

/-- The statuses that may go away: rate limiting, internal failure, and three kinds of
unavailability behind a gateway. -/
def isTransientStatus (status : Nat) : Bool := [429, 500, 502, 503, 504].contains status

namespace ModelError

/-- May the same request succeed later? -/
def isTransient : ModelError → Bool
  | http status _ => isTransientStatus status
  | transport _ transient => transient
  | unexpectedResponse _ => false
  | backend _ => false

def message : ModelError → String
  | http status reason => "REST API error " ++ toString status ++ ": " ++ reason
  | transport text _ => "request to the model endpoint failed: " ++ text
  | unexpectedResponse payload => "REST API unexpected response format: " ++ payload
  | backend text => text

end ModelError

end SchemaDialogue
