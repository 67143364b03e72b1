import Mathlib.Order.Bounds.Defs
import SchemaDialogue.Proofs.Backoff

/-!
# Attempts

How often a run attempts, and what it gives. The run is followed on any sequence of results, and
three things can end it: a success, a failure for good, and the budget of one attempt more than
there are retries. It ends at the first place at which one of them does, with the result of that
attempt; between any two attempts there is one pause, and there is none after the last.
-/

namespace SchemaDialogue.Retry

variable {α : Type} {config : RetryConfig} {results : Nat → Except ModelError α}

/-- Where a run may end, the first attempt counting as one: when the budget is spent, at a success,
and at a failure for good. -/
def endings (config : RetryConfig) (results : Nat → Except ModelError α) : Set Nat :=
  {n | n = 1 + config.retries ∨
    (∃ k value, n = k + 1 ∧ results k = .ok value) ∨
    ∃ k e, n = k + 1 ∧ results k = .error e ∧ e.isTransient = false}

/-- What is no failure that may go away is a success or a failure for good. -/
theorem not_isTransient_iff {result : Except ModelError α} :
    ¬IsTransient result ↔
      (∃ value, result = .ok value) ∨ ∃ e, result = .error e ∧ e.isTransient = false := by
  cases result <;> simp [IsTransient]

theorem mem_endings_iff {n : Nat} :
    n ∈ endings config results ↔
      n = 1 + config.retries ∨ ∃ k, n = k + 1 ∧ ¬IsTransient (results k) := by
  refine or_congr_right ?_
  simp only [not_isTransient_iff, and_or_left, exists_or, exists_and_left]

/-- The first place at which a run may end: only failures that may go away are in front of it. -/
theorem isLeast_endings {further : Nat} (within : further ≤ config.retries)
    (earlier : ∀ i < further, IsTransient (results i))
    (stopped : further = config.retries ∨ ¬IsTransient (results further)) :
    IsLeast (endings config results) (further + 1) := by
  refine ⟨mem_endings_iff.mpr ?_, fun n ending => ?_⟩
  · rcases stopped with spent | final
    · exact .inl (by omega)
    · exact .inr ⟨further, rfl, final⟩
  · rcases mem_endings_iff.mp ending with spent | ⟨k, rfl, final⟩
    · omega
    · by_contra before
      exact final (earlier k (by omega))

/-- An attempt and what follows it, in turn, are what comes before an attempt and that attempt. -/
theorem flatMap_alternating {β γ : Type} (a : γ) (f : β → γ) (l : List β) :
    (l.flatMap fun b => [a, f b]) ++ [a] = a :: l.flatMap fun b => [f b, a] := by
  induction l with
  | nil => rfl
  | cons b rest ih => simpa using ih

/-- The log of attempts with one pause between any two of them. -/
def alternating (waits : List Nat) : List Event :=
  .attempted :: waits.flatMap fun waited => [.paused waited, .attempted]

theorem rounds_concat (config : RetryConfig) (pause further : Nat) :
    rounds config pause further ++ [.attempted] =
      alternating ((List.range further).map (pauseAfter config pause)) := by
  rw [rounds, flatMap_alternating, alternating, List.flatMap_map]

@[simp] theorem count_alternating (waits : List Nat) :
    (alternating waits).count .attempted = waits.length + 1 := by
  induction waits with
  | nil => rfl
  | cons waited rest ih =>
    have once : [Event.paused waited, .attempted].count .attempted = 1 := by simp
    rw [alternating, List.count_cons_self] at ih ⊢
    rw [List.flatMap_cons, List.count_append, once, List.length_cons]
    omega

@[simp] theorem pauses_alternating (waits : List Nat) : pauses (alternating waits) = waits := by
  induction waits with
  | nil => rfl
  | cons waited rest ih => exact congrArg (waited :: ·) ih

/-- **The attempts of a run.** For every configuration and every sequence of results: the run makes
just as many attempts as the least of one more than there are retries, the place of the first
success, and the place of the first failure for good; it pauses once between any two attempts, and
at no other time; and it gives the result of the last attempt as it is. On durations of whole
milliseconds, of 64 bits, the run is the same and does give an answer. -/
theorem attempts_exact (config : RetryConfig) (results : Nat → Except ModelError α) :
    (∃ n log, (run config pausing (attempting results)).run [] = (results (n - 1), log) ∧
      IsLeast (endings config results) n ∧
      log.count .attempted = n ∧ (pauses log).length = n - 1 ∧ log = alternating (pauses log)) ∧
    (config.initialBackoff < 2 ^ 64 → config.maxBackoff < 2 ^ 64 →
      ∀ (m : Type → Type) [Monad m] [LawfulMonad m] (sleep : Duration → m Unit)
        (attempt : m (Except ModelError α)),
        timedRun config sleep attempt =
          some <$> run config (fun n => sleep (.ofMillis (.ofNat n))) attempt) := by
  refine ⟨?_, fun short bounded m _ _ sleep attempt => timedRun_eq short bounded sleep attempt⟩
  obtain ⟨further, within, earlier, stopped, logged⟩ :=
    attempts_attempting config results config.retries config.initialBackoff []
  simp only [List.count_nil, Nat.zero_add] at earlier stopped logged
  refine ⟨further + 1, _, logged, isLeast_endings within earlier stopped, ?_⟩
  simp [rounds_concat]

end SchemaDialogue.Retry
