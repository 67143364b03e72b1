import SchemaDialogue.Dialogue.Retry
import SchemaDialogue.Dialogue.Section

/-!
# Scripted models

A script stands in for a model: it gives one reply after the other, whatever it is asked, and keeps
what it was asked. A rehearsal runs the attempts of a retry configuration against a script of
results, with a clock that only pauses move.
-/

namespace SchemaDialogue

/-- The failure of a script that has no replies left. -/
def scriptExhausted : ModelError := .backend "script exhausted"

/-- Replies that are left, and the prompts so far. -/
structure Script where
  replies : List (Except ModelError String)
  calls : List (List Section) := []

namespace Script

/-- The name of a model that does not tell it. -/
def modelName : String := "unknown"

/-- Give the next reply. -/
def ask (prompt : List Section) : StateM Script (Except ModelError String) := fun s =>
  match s.replies with
  | [] => (.error scriptExhausted, ⟨[], s.calls ++ [prompt]⟩)
  | reply :: rest => (reply, ⟨rest, s.calls ++ [prompt]⟩)

/-- A plain text is asked as one section of the user. -/
def askText (prompt : String) : StateM Script (Except ModelError String) := ask [⟨.user, prompt⟩]

end Script

/-- Results that are left, the time in milliseconds, and the times of the attempts so far. -/
structure Rehearsal (α : Type) where
  results : List (Except ModelError α)
  now : Nat := 0
  attempts : List Nat := []

namespace Rehearsal

variable {α : Type}

/-- The longest that a pause lasts, in milliseconds: thirty years of 365 days. -/
def longestPause : Nat := 30 * 365 * 24 * 60 * 60 * 1000

/-- Let time pass. -/
def sleep (pause : Nat) : StateM (Rehearsal α) Unit :=
  modify fun s => { s with now := s.now + min pause longestPause }

/-- Give the next result. -/
def attempt : StateM (Rehearsal α) (Except ModelError α) := fun s =>
  match s.results with
  | [] => (.error scriptExhausted, { s with attempts := s.attempts ++ [s.now] })
  | result :: rest => (result, ⟨rest, s.now, s.attempts ++ [s.now]⟩)

/-- The result of a run against a script, and the times of its attempts. -/
def run (config : RetryConfig) (results : List (Except ModelError α)) :
    Except ModelError α × List Nat :=
  let (result, s) := (Retry.run config sleep attempt).run { results }
  (result, s.attempts)

end Rehearsal

end SchemaDialogue
