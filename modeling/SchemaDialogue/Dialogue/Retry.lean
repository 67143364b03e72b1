import SchemaDialogue.Dialogue.ModelError
import SchemaDialogue.Json.Print
import SchemaDialogue.Read.Record

/-!
# Retrying a request

A request is repeated while it fails with a transient failure and retries are left. Before each
retry there is a pause; the next pause is twice as long, but no longer than the ceiling. The first
pause is the initial one, whatever the ceiling.
-/

namespace SchemaDialogue

open Read

/-- How often and with which pauses, in milliseconds, a request is repeated. -/
structure RetryConfig where
  retries : Nat := 3
  initialBackoff : Nat := 1000
  maxBackoff : Nat := 8000
deriving DecidableEq

namespace RetryConfig

def none : RetryConfig := { retries := 0 }

def form : RecordForm RetryConfig fun _ => True :=
  { expected := .record "RetryConfig"
    fields := [
      field "retries" .defaulted (natural "usize") fun v c => { c with retries := v },
      field "initial_backoff_ms" .defaulted (natural "u64")
        fun v c => { c with initialBackoff := v },
      field "max_backoff_ms" .defaulted (natural "u64") fun v c => { c with maxBackoff := v }]
    blank := {} }

def read : Reader RetryConfig := record form

def toJson (c : RetryConfig) : Json :=
  .object [("retries", .ofNat c.retries), ("initial_backoff_ms", .ofNat c.initialBackoff),
    ("max_backoff_ms", .ofNat c.maxBackoff)]

end RetryConfig

namespace Retry

variable {m : Type → Type} [Monad m] {α : Type}

/-- The pause after a pause. -/
def nextPause (config : RetryConfig) (pause : Nat) : Nat := min (pause * 2) config.maxBackoff

/-- Attempt until one succeeds, one fails for good, or no retry is left. -/
def attempts (config : RetryConfig) (sleep : Nat → m Unit) (attempt : m (Except ModelError α)) :
    Nat → Nat → m (Except ModelError α)
  -- The failure of the last attempt stands, transient or not.
  | 0, _ => attempt
  | left + 1, pause => do
    match ← attempt with
    | .ok value => pure (.ok value)
    | .error e =>
      if e.isTransient then do
        sleep pause
        attempts config sleep attempt left (nextPause config pause)
      else pure (.error e)

/-- Run a request under a retry configuration. -/
def run (config : RetryConfig) (sleep : Nat → m Unit) (attempt : m (Except ModelError α)) :
    m (Except ModelError α) :=
  attempts config sleep attempt config.retries config.initialBackoff

end Retry

end SchemaDialogue
