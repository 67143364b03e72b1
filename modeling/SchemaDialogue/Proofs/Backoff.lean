import Mathlib.Order.Monotone.Basic
import SchemaDialogue.Proofs.Reading
import SchemaDialogue.Proofs.RequestBudget

/-!
# Backoff

A run is followed on any sequence of results: each attempt takes the next result, and the attempts
and the pauses are logged in order. One step either ends the run or pauses and doubles the pause, up
to the ceiling; from it the whole log is read off. The first pause is the initial one as it is, so
the pauses stay below the ceiling if and only if the initial one does.

The pauses are counted in milliseconds here. The timer counts seconds and nanoseconds, and doubling
such a duration can overflow; for the settings that can be read it never does, so that a run on
durations is the run on milliseconds.
-/

namespace SchemaDialogue

open Read

/-! ## Durations -/

/-- A length of time: whole seconds, of 64 bits, and nanoseconds. -/
structure Duration where
  seconds : Nat
  nanoseconds : Nat
  seconds_lt : seconds < 2 ^ 64
  nanoseconds_lt : nanoseconds < 10 ^ 9
deriving DecidableEq

namespace Duration

/-- The duration of some milliseconds. -/
def ofMillis (n : UInt64) : Duration where
  seconds := n.toNat / 1000
  nanoseconds := n.toNat % 1000 * 10 ^ 6
  seconds_lt := by have := n.toNat_lt; omega
  nanoseconds_lt := by omega

/-- Twice a duration, unless that has too many seconds. -/
def double? (d : Duration) : Option Duration :=
  if fits : d.seconds * 2 + d.nanoseconds * 2 / 10 ^ 9 < 2 ^ 64 then
    some ⟨d.seconds * 2 + d.nanoseconds * 2 / 10 ^ 9, d.nanoseconds * 2 % 10 ^ 9, fits, by omega⟩
  else none

/-- Is a duration shorter than another? The seconds are compared first. -/
def isShorter (a b : Duration) : Bool :=
  a.seconds < b.seconds || (a.seconds == b.seconds && a.nanoseconds < b.nanoseconds)

/-- The shorter of two durations. -/
def shorter (a b : Duration) : Duration := if b.isShorter a then b else a

theorem isShorter_iff {a b : Duration} : a.isShorter b = true ↔
    a.seconds < b.seconds ∨ a.seconds = b.seconds ∧ a.nanoseconds < b.nanoseconds := by
  simp [isShorter]

/-- Twice a number of milliseconds is never too long for a duration, though it may take more than
64 bits; held to a ceiling it takes no more. -/
theorem double_ofMillis (n ceiling : UInt64) :
    ∃ twice, (ofMillis n).double? = some twice ∧
      twice.shorter (ofMillis ceiling) =
        ofMillis (.ofNat (min (n.toNat * 2) ceiling.toNat)) := by
  have small := n.toNat_lt
  have bound := ceiling.toNat_lt
  have fits : (ofMillis n).seconds * 2 + (ofMillis n).nanoseconds * 2 / 10 ^ 9 < 2 ^ 64 := by
    simp only [ofMillis]
    omega
  have held : (UInt64.ofNat (min (n.toNat * 2) ceiling.toNat)).toNat =
      min (n.toNat * 2) ceiling.toNat :=
    UInt64.toNat_ofNat_of_lt' (lt_of_le_of_lt (min_le_right _ _) bound)
  refine ⟨_, dif_pos fits, ?_⟩
  simp only [shorter, isShorter_iff, ofMillis, held]
  split
  case isTrue longer => simp only [mk.injEq]; omega
  case isFalse shorter => simp only [mk.injEq]; omega

end Duration

/-! ## A run on durations -/

namespace Retry

section

variable {m : Type → Type} [Monad m] {α : Type} {config : RetryConfig}

/-- Attempt with pauses that are durations. There is no answer at all when a doubling overflows. -/
def timedAttempts (ceiling : Duration) (sleep : Duration → m Unit)
    (attempt : m (Except ModelError α)) : Nat → Duration → m (Option (Except ModelError α))
  | 0, _ => some <$> attempt
  | left + 1, pause => do
    match ← attempt with
    | .ok value => pure (some (.ok value))
    | .error e =>
      if e.isTransient then do
        sleep pause
        match pause.double? with
        | none => pure none
        | some twice => timedAttempts ceiling sleep attempt left (twice.shorter ceiling)
      else pure (some (.error e))

/-- A run on durations, the settings being milliseconds of 64 bits. -/
def timedRun (config : RetryConfig) (sleep : Duration → m Unit)
    (attempt : m (Except ModelError α)) : m (Option (Except ModelError α)) :=
  timedAttempts (.ofMillis (.ofNat config.maxBackoff)) sleep attempt config.retries
    (.ofMillis (.ofNat config.initialBackoff))

variable [LawfulMonad m]

/-- Attempts on durations are attempts on milliseconds, each pause being just so long. -/
theorem timedAttempts_ofMillis (bounded : config.maxBackoff < 2 ^ 64) (sleep : Duration → m Unit)
    (attempt : m (Except ModelError α)) (left : Nat) {pause : Nat} (short : pause < 2 ^ 64) :
    timedAttempts (.ofMillis (.ofNat config.maxBackoff)) sleep attempt left
        (.ofMillis (.ofNat pause)) =
      some <$> attempts config (fun n => sleep (.ofMillis (.ofNat n))) attempt left pause := by
  induction left generalizing pause with
  | zero => rfl
  | succ left ih =>
    rw [timedAttempts, attempts, map_bind]
    congr 1
    funext answer
    cases answer with
    | ok value => simp
    | error e =>
      obtain ⟨twice, double, held⟩ :=
        Duration.double_ofMillis (.ofNat pause) (.ofNat config.maxBackoff)
      rw [UInt64.toNat_ofNat_of_lt' short, UInt64.toNat_ofNat_of_lt' bounded] at held
      have next : nextPause config pause < 2 ^ 64 := lt_of_le_of_lt (min_le_right _ _) bounded
      by_cases transient : e.isTransient = true
      · simp only [transient, if_true, map_bind, double, held]
        exact congrArg _ (funext fun _ => ih next)
      · simp [transient]

/-- No doubling of a run overflows when the settings have 64 bits. -/
theorem timedRun_eq (short : config.initialBackoff < 2 ^ 64) (bounded : config.maxBackoff < 2 ^ 64)
    (sleep : Duration → m Unit) (attempt : m (Except ModelError α)) :
    timedRun config sleep attempt =
      some <$> run config (fun n => sleep (.ofMillis (.ofNat n))) attempt :=
  timedAttempts_ofMillis bounded sleep attempt config.retries short

end

/-! ## The log of a run -/

/-- What happens in a run. -/
inductive Event where
  | attempted
  | paused (pause : Nat)
deriving DecidableEq

variable {α : Type} {config : RetryConfig}

/-- The pauses of a log, in order. -/
def pauses (log : List Event) : List Nat :=
  log.filterMap fun
    | .attempted => none
    | .paused pause => some pause

/-- An attempt that takes the next result of a sequence, and is logged. -/
def attempting (results : Nat → Except ModelError α) :
    StateM (List Event) (Except ModelError α) := fun log =>
  (results (log.count .attempted), log ++ [.attempted])

/-- A pause that is logged. -/
def pausing (pause : Nat) : StateM (List Event) Unit := fun log => ((), log ++ [.paused pause])

/-- The result is a failure after which another attempt is made. -/
def IsTransient (result : Except ModelError α) : Prop := ∃ e, result = .error e ∧ e.isTransient

/-- The pause after some further pauses. -/
def pauseAfter (config : RetryConfig) (pause further : Nat) : Nat :=
  (nextPause config)^[further] pause

/-- A failed attempt and the pause after it, for each pause in turn. -/
def rounds (config : RetryConfig) (pause further : Nat) : List Event :=
  (List.range further).flatMap fun k => [.attempted, .paused (pauseAfter config pause k)]

theorem rounds_succ (config : RetryConfig) (pause further : Nat) :
    rounds config pause (further + 1) =
      [.attempted, .paused pause] ++ rounds config (nextPause config pause) further := by
  simp only [rounds, pauseAfter, List.range_succ_eq_map, List.flatMap_cons, List.flatMap_map]
  rfl

theorem pauses_rounds (config : RetryConfig) (pause further : Nat) :
    pauses (rounds config pause further) = (List.range further).map (pauseAfter config pause) := by
  simp [pauses, rounds, List.filterMap_flatMap, List.map_eq_flatMap]

theorem run_attempting (results : Nat → Except ModelError α) (log : List Event) :
    (attempting results).run log = (results (log.count .attempted), log ++ [.attempted]) := rfl

theorem run_pausing (pause : Nat) (log : List Event) :
    (pausing pause).run log = ((), log ++ [.paused pause]) := rfl

/-- An attempt that ends a run. -/
theorem attempts_attempting_last {results : Nat → Except ModelError α} {left pause : Nat}
    {log : List Event} (last : left = 0 ∨ ¬IsTransient (results (log.count .attempted))) :
    (attempts config pausing (attempting results) left pause).run log =
      (results (log.count .attempted), log ++ [.attempted]) := by
  cases left with
  | zero => rfl
  | succ left =>
    have final : ¬IsTransient (results (log.count .attempted)) := by simpa using last
    rw [attempts_succ_run, run_attempting]
    cases result : results (log.count .attempted) with
    | ok value => rfl
    | error e =>
      have permanent : ¬e.isTransient = true := fun h => final ⟨e, result, h⟩
      exact if_neg permanent

/-- An attempt that another one follows. -/
theorem attempts_attempting_succ {results : Nat → Except ModelError α} {left pause : Nat}
    {log : List Event} (transient : IsTransient (results (log.count .attempted))) :
    (attempts config pausing (attempting results) (left + 1) pause).run log =
      (attempts config pausing (attempting results) left (nextPause config pause)).run
        (log ++ [.attempted, .paused pause]) := by
  obtain ⟨e, result, transient⟩ := transient
  rw [attempts_succ_run, run_attempting, result]
  simp only [transient, if_true, run_pausing, List.append_assoc, List.cons_append, List.nil_append]

/-- The attempts from some point of a run on: all but the last fail for a while only, each is
followed by its pause, and the last gives the result, because it is not such a failure or because no
retry is left. -/
theorem attempts_attempting (config : RetryConfig) (results : Nat → Except ModelError α)
    (left pause : Nat) (log : List Event) :
    ∃ further ≤ left,
      (∀ i < further, IsTransient (results (log.count .attempted + i))) ∧
      (further = left ∨ ¬IsTransient (results (log.count .attempted + further))) ∧
      (attempts config pausing (attempting results) left pause).run log =
        (results (log.count .attempted + further),
          log ++ (rounds config pause further ++ [.attempted])) := by
  induction left generalizing pause log with
  | zero => exact ⟨0, le_rfl, by simp, .inl rfl, attempts_attempting_last (.inl rfl)⟩
  | succ left ih =>
    by_cases transient : IsTransient (results (log.count .attempted))
    case neg =>
      exact ⟨0, Nat.zero_le _, by simp, .inr transient, attempts_attempting_last (.inr transient)⟩
    case pos =>
      -- the log is longer by one attempt, so that the results that are left begin one later
      obtain ⟨further, within, earlier, stopped, run⟩ :=
        ih (nextPause config pause) (log ++ [.attempted, .paused pause])
      have count : (log ++ [Event.attempted, .paused pause]).count .attempted =
          log.count .attempted + 1 := by simp
      simp only [count, Nat.add_assoc, Nat.add_comm 1] at earlier stopped run
      refine ⟨further + 1, by omega, ?_, by simpa using stopped, ?_⟩
      · intro i small
        cases i with
        | zero => exact transient
        | succ i => exact earlier i (by omega)
      · rw [attempts_attempting_succ transient, run, rounds_succ]
        simp

/-! ## How long the pauses are -/

/-- Every pause but the first is held to the ceiling. -/
theorem pauseAfter_succ (config : RetryConfig) (pause further : Nat) :
    pauseAfter config pause (further + 1) =
      min (pause * 2 ^ (further + 1)) config.maxBackoff := by
  induction further with
  | zero => rfl
  | succ further ih =>
    rw [pauseAfter, Function.iterate_succ_apply', ← pauseAfter, ih, nextPause,
      Nat.pow_succ 2 (further + 1), ← Nat.mul_assoc]
    omega

/-- From an initial pause up to the ceiling on, every pause is. -/
theorem pauseAfter_of_le {pause : Nat} (below : pause ≤ config.maxBackoff) (further : Nat) :
    pauseAfter config pause further = min (pause * 2 ^ further) config.maxBackoff := by
  cases further with
  | zero => simp [pauseAfter, below]
  | succ further => exact pauseAfter_succ config pause further

theorem pauseAfter_le {pause : Nat} (below : pause ≤ config.maxBackoff) (further : Nat) :
    pauseAfter config pause further ≤ config.maxBackoff := by
  rw [pauseAfter_of_le below]
  exact min_le_right _ _

/-- Below the ceiling no pause is shorter than one before it. -/
theorem pauseAfter_mono {pause : Nat} (below : pause ≤ config.maxBackoff) :
    Monotone (pauseAfter config pause) := by
  intro k l earlier
  rw [pauseAfter_of_le below, pauseAfter_of_le below]
  have powers : pause * 2 ^ k ≤ pause * 2 ^ l :=
    Nat.mul_le_mul_left _ (Nat.pow_le_pow_right (by omega) earlier)
  exact min_le_min_right _ powers

end Retry

namespace RetryConfig

/-- The pauses of a configuration that was read are milliseconds of 64 bits. -/
theorem bounded_of_read {r : Reading} {d : Draft} {config : RetryConfig}
    (given : read r d = .ok config) :
    config.initialBackoff < 2 ^ 64 ∧ config.maxBackoff < 2 ^ 64 := by
  have keeps : form.Keeps fun c => c.initialBackoff < 2 ^ 64 ∧ c.maxBackoff < 2 ^ 64 := by
    refine ⟨by decide, fun f member r d part update read c kept => ?_⟩
    simp only [form, List.mem_cons, List.not_mem_nil, or_false] at member
    rcases member with rfl | rfl | rfl <;>
      obtain ⟨n, number, rfl⟩ := exists_of_map_eq_ok read
    · exact kept
    · exact ⟨natural_lt number, kept.2⟩
    · exact ⟨kept.1, natural_lt number⟩
  exact keeps.record given

end RetryConfig

namespace Retry

/-- The pauses of a whole run, no more than there are retries. -/
theorem pauses_log (config : RetryConfig) (results : Nat → Except ModelError α) :
    ∃ further ≤ config.retries,
      pauses ((run config pausing (attempting results)).run []).2 =
        (List.range further).map (pauseAfter config config.initialBackoff) := by
  obtain ⟨further, within, -, -, logged⟩ :=
    attempts_attempting config results config.retries config.initialBackoff []
  refine ⟨further, within, ?_⟩
  rw [run, logged, ← pauses_rounds]
  simp [pauses]

/-- **The pauses of a run.** For every configuration that was read and every sequence of results:
the first pause is the initial one, and each further pause is the initial one doubled as often,
held to the ceiling. If the initial pause is not above the ceiling, then all of them are so, none is
above the ceiling, and none is shorter than one before it. On durations the run is the same, each
pause being exactly so many milliseconds: no doubling overflows. -/
theorem pauses_run {r : Reading} {d : Draft} {config : RetryConfig}
    (given : RetryConfig.read r d = .ok config) (results : Nat → Except ModelError α) :
    let log := ((run config pausing (attempting results)).run []).2
    (∀ k pause, (pauses log)[k]? = some pause →
      pause = if k = 0 then config.initialBackoff
        else min (config.initialBackoff * 2 ^ k) config.maxBackoff) ∧
    (config.initialBackoff ≤ config.maxBackoff →
      (∀ k pause, (pauses log)[k]? = some pause →
        pause = min (config.initialBackoff * 2 ^ k) config.maxBackoff) ∧
      (∀ pause ∈ pauses log, pause ≤ config.maxBackoff) ∧
      (pauses log).Pairwise (· ≤ ·)) ∧
    ∀ (m : Type → Type) [Monad m] [LawfulMonad m] (sleep : Duration → m Unit)
      (attempt : m (Except ModelError α)),
      timedRun config sleep attempt =
        some <$> run config (fun n => sleep (.ofMillis (.ofNat n))) attempt := by
  intro log
  obtain ⟨short, bounded⟩ := RetryConfig.bounded_of_read given
  obtain ⟨further, -, all⟩ : ∃ further ≤ config.retries,
      pauses log = (List.range further).map (pauseAfter config config.initialBackoff) :=
    pauses_log config results
  have each : ∀ k pause, (pauses log)[k]? = some pause →
      pause = pauseAfter config config.initialBackoff k := by
    intro k pause found
    rw [all, List.getElem?_map, Option.map_eq_some_iff] at found
    obtain ⟨l, place, rfl⟩ := found
    obtain ⟨_, rfl⟩ := List.getElem?_eq_some_iff.mp place
    rw [List.getElem_range]
  refine ⟨fun k pause found => ?closed, fun below => ⟨fun k pause found => ?exact, ?held, ?ordered⟩,
    fun m _ _ sleep attempt => timedRun_eq short bounded sleep attempt⟩
  case closed =>
    rw [each k pause found]
    cases k with
    | zero => rfl
    | succ k => exact pauseAfter_succ config _ k
  case exact => rw [each k pause found, pauseAfter_of_le below]
  case held =>
    intro pause there
    obtain ⟨k, found⟩ := List.mem_iff_getElem?.mp there
    rw [each k pause found]
    exact pauseAfter_le below k
  case ordered =>
    rw [all, List.pairwise_map]
    exact List.pairwise_lt_range.imp fun earlier => pauseAfter_mono below earlier.le

/-- An endpoint that asks to slow down, however often it is asked. -/
def busy (_ : Nat) : Except ModelError Unit := .error (.http 429 "slow down")

/-- Three retries of the standard configuration stay below its ceiling. -/
theorem pauses_run_busy :
    let log := ((run {} pausing (attempting busy)).run []).2
    pauses log = [1000, 2000, 4000] ∧ ∀ pause ∈ pauses log, pause ≤ 8000 :=
  have given : RetryConfig.read .ofValue (Draft.ofJson (RetryConfig.toJson {})) = .ok {} := by rfl
  ⟨by rfl, ((pauses_run given busy).2.1 (by decide)).2.1⟩

/-- A ceiling below the initial pause. -/
def steep : RetryConfig := { retries := 1, initialBackoff := 5000, maxBackoff := 1000 }

/-- The first pause is not held to the ceiling. -/
theorem not_pauses_run :
    ¬∀ (r : Reading) (d : Draft) (config : RetryConfig), RetryConfig.read r d = .ok config →
      ∀ (results : Nat → Except ModelError Unit) (k pause : Nat),
        (pauses ((run config pausing (attempting results)).run []).2)[k]? = some pause →
          pause = min (config.initialBackoff * 2 ^ k) config.maxBackoff := by
  intro claimed
  have given : RetryConfig.read .ofValue (Draft.ofJson steep.toJson) = .ok steep := by rfl
  have first : 5000 = min (steep.initialBackoff * 2 ^ 0) steep.maxBackoff :=
    claimed _ _ steep given busy 0 5000 (by rfl)
  exact absurd first (by decide)

end Retry

end SchemaDialogue
