import Mathlib.Data.List.Chain
import SchemaDialogue.Dialogue.Translate

/-!
# The protocol of a conversation

A conversation is followed on any sequence of answers. One call of the model either ends the
conversation or, when its answer is rejected and a repair is left, adds the answer and a repair
prompt to what is asked next. From this step the whole run is read off: every prompt that was sent,
the call at which it stopped, and why.
-/

namespace SchemaDialogue

namespace Translator

variable {α σ : Type} {t : Translator α}

/-- A model that gives the answers of a sequence, one for each call, and keeps the prompts it was
asked with. -/
def answering (answers : Nat → Except ModelError String) (prompt : List Section) :
    StateM (List (List Section)) (Except ModelError String) := fun calls =>
  (answers calls.length, calls ++ [prompt])

/-- The answer is a text in which something is wrong. -/
def Rejects (t : Translator α) (answer : Except ModelError String) : Prop :=
  ∃ response e, answer = .ok response ∧ t.judge response = .error e

/-- The sections that a rejected answer adds to the next prompt: the whole response, and the prompt
that says what is wrong with it. -/
def amendment (t : Translator α) (answer : Except ModelError String) : List Section :=
  match answer with
  | .error _ => []
  | .ok response =>
    match t.judge response with
    | .ok _ => []
    | .error e => [⟨.assistant, response⟩, ⟨.user, t.repairPrompt e.message⟩]

/-- What a conversation results in when it ends with an answer. -/
def outcome (t : Translator α) (answer : Except ModelError String) : Except TranslateError α :=
  match answer with
  | .error e => .error (.model e)
  | .ok response => t.judge response

/-- The prompt of a call: the preamble, the request, and the amendments of the answers before it. -/
def promptAt (t : Translator α) (preamble : Preamble) (request : String)
    (answers : Nat → Except ModelError String) (call : Nat) : List Section :=
  preamble.toSections ++ [⟨.user, t.requestPrompt request⟩] ++
    (List.range call).flatMap fun i => t.amendment (answers i)

theorem run_answering (answers : Nat → Except ModelError String) (prompt : List Section)
    (calls : List (List Section)) :
    (answering answers prompt).run calls = (answers calls.length, calls ++ [prompt]) := rfl

/-- The answer to a call amends the prompt of the next. -/
theorem promptAt_succ (preamble : Preamble) (request : String)
    (answers : Nat → Except ModelError String) (call : Nat) :
    t.promptAt preamble request answers (call + 1) =
      t.promptAt preamble request answers call ++ t.amendment (answers call) := by
  simp [promptAt, List.range_succ]

/-- A rejected answer adds two sections. -/
theorem Rejects.length_amendment {answer : Except ModelError String} (h : t.Rejects answer) :
    (t.amendment answer).length = 2 := by
  obtain ⟨response, e, rfl, hjudge⟩ := h
  simp [amendment, hjudge]

/-- Why a conversation may end with an answer before its repairs are spent. -/
theorem outcome_of_not_rejects {answer : Except ModelError String} (h : ¬ t.Rejects answer) :
    (∃ e, answer = .error e ∧ t.outcome answer = .error (.model e)) ∨
    ∃ response value, answer = .ok response ∧ t.judge response = .ok value ∧
      t.outcome answer = .ok value := by
  cases answer with
  | error e => exact .inl ⟨e, rfl, rfl⟩
  | ok response =>
    cases hjudge : t.judge response with
    | ok value => exact .inr ⟨response, value, rfl, hjudge, hjudge⟩
    | error e => exact absurd ⟨response, e, rfl, hjudge⟩ h

/-- One call of a conversation. -/
theorem converse_run (t : Translator α)
    (ask : List Section → StateM σ (Except ModelError String)) (repairs : Nat)
    (prompt : List Section) (s : σ) :
    (t.converse ask repairs prompt).run s =
      match (ask prompt).run s with
      | (.error e, s') => (.error (.model e), s')
      | (.ok response, s') =>
        match t.judge response with
        | .ok value => (.ok value, s')
        | .error e =>
          match repairs with
          | 0 => (.error e, s')
          | repairs + 1 =>
            (t.converse ask repairs
              (prompt ++ [⟨.assistant, response⟩, ⟨.user, t.repairPrompt e.message⟩])).run s' := by
  rw [converse.eq_def, StateT.run_bind]
  rcases (ask prompt).run s with ⟨_ | response, s'⟩
  · rfl
  · show StateT.run (match t.judge response with | .ok value => _ | .error e => _) s' = _
    dsimp only
    cases t.judge response
    · cases repairs <;> rfl
    · rfl

/-- A call whose answer is not rejected, or that has no repair left, ends the conversation. -/
theorem converse_answering_last {answers : Nat → Except ModelError String} {repairs : Nat}
    {prompt : List Section} {calls : List (List Section)}
    (h : repairs = 0 ∨ ¬ t.Rejects (answers calls.length)) :
    (t.converse (answering answers) repairs prompt).run calls =
      (t.outcome (answers calls.length), calls ++ [prompt]) := by
  rw [converse_run, run_answering]
  cases hanswer : answers calls.length with
  | error e => rfl
  | ok response =>
    cases hjudge : t.judge response with
    | ok value => simp [outcome, hjudge]
    | error e =>
      rcases h with rfl | h
      · simp [outcome, hjudge]
      · exact absurd ⟨response, e, hanswer, hjudge⟩ h

/-- A call whose answer is rejected is followed by one with the amended prompt. -/
theorem converse_answering_succ {answers : Nat → Except ModelError String} {repairs : Nat}
    {prompt : List Section} {calls : List (List Section)}
    (h : t.Rejects (answers calls.length)) :
    (t.converse (answering answers) (repairs + 1) prompt).run calls =
      (t.converse (answering answers) repairs
        (prompt ++ t.amendment (answers calls.length))).run (calls ++ [prompt]) := by
  obtain ⟨response, e, hanswer, hjudge⟩ := h
  rw [converse_run, run_answering]
  simp only [hanswer, amendment, hjudge]

/-- The calls from some point of a conversation on: all but the last are rejected, the last is not
or has no repair left, and the prompt of each has the amendments of those before it. -/
theorem converse_answering (t : Translator α) (answers : Nat → Except ModelError String)
    (repairs : Nat) (prompt : List Section) (calls : List (List Section)) :
    ∃ further ≤ repairs,
      (∀ i < further, t.Rejects (answers (calls.length + i))) ∧
      (further = repairs ∨ ¬ t.Rejects (answers (calls.length + further))) ∧
      (t.converse (answering answers) repairs prompt).run calls =
        (t.outcome (answers (calls.length + further)),
          calls ++ (List.range (further + 1)).map fun k =>
            prompt ++ (List.range k).flatMap fun i =>
              t.amendment (answers (calls.length + i))) := by
  induction repairs generalizing prompt calls with
  | zero =>
    refine ⟨0, le_rfl, by simp, .inl rfl, ?_⟩
    simp [converse_answering_last (t := t) (.inl rfl)]
  | succ repairs ih =>
    by_cases h : t.Rejects (answers calls.length)
    · -- the answer is rejected: what follows is a conversation of its own from the next call on
      obtain ⟨further, hle, hrejected, hlast, hrun⟩ :=
        ih (prompt ++ t.amendment (answers calls.length)) (calls ++ [prompt])
      have shift (i : Nat) : (calls ++ [prompt]).length + i = calls.length + (i + 1) := by
        simp only [List.length_append, List.length_singleton]
        omega
      simp only [shift] at hrejected hlast hrun
      refine ⟨further + 1, by omega, ?_, ?_, ?_⟩
      · rintro (_ | i) hi
        · exact h
        · exact hrejected i (by omega)
      · exact hlast.imp (congrArg (· + 1)) id
      · rw [converse_answering_succ h, hrun, List.range_succ_eq_map (n := further + 1)]
        simp [List.range_succ_eq_map, List.flatMap_map, Function.comp_def]
    · refine ⟨0, by omega, by simp, .inr h, ?_⟩
      simp [converse_answering_last (.inr h)]

/-- **A conversation follows its protocol on every sequence of answers.** The prompt of each call
is the preamble, the request, and for each answer before it the whole response and its repair
prompt. Every answer but the last is rejected while repairs are left; at the last the model fails,
and its failure is the result, or the answer holds a value, and it is the result, or the repairs are
spent, and what is wrong with the answer is the result. So there are never more calls than repairs
and one, there are that many when every answer is rejected, and every prompt properly extends the
one before it. -/
theorem translate_answering (t : Translator α) (preamble : Preamble) (request : String)
    (answers : Nat → Except ModelError String) :
    let (result, calls) := (t.translate (answering answers) preamble.toSections request).run []
    (∃ last,
      calls = (List.range (last + 1)).map (t.promptAt preamble request answers) ∧
      (∀ i < last, i < t.options.maxRepairAttempts ∧ t.Rejects (answers i)) ∧
      ((∃ e, answers last = .error e ∧ result = .error (.model e)) ∨
       (∃ response value, answers last = .ok response ∧ t.judge response = .ok value ∧
          result = .ok value) ∨
       (∃ response e, answers last = .ok response ∧ t.judge response = .error e ∧
          last = t.options.maxRepairAttempts ∧ result = .error e))) ∧
    calls.length ≤ 1 + t.options.maxRepairAttempts ∧
    ((∀ i ≤ t.options.maxRepairAttempts, t.Rejects (answers i)) →
      calls.length = 1 + t.options.maxRepairAttempts) ∧
    calls.IsChain fun prompt next => prompt <+: next ∧ prompt.length < next.length := by
  obtain ⟨last, hle, hrejected, hlast, hrun⟩ := t.converse_answering answers
    t.options.maxRepairAttempts (preamble.toSections ++ [⟨.user, t.requestPrompt request⟩]) []
  simp only [List.length_nil, Nat.zero_add, List.nil_append] at hrejected hlast hrun
  rw [translate, hrun]
  show (∃ _, _) ∧ _
  refine ⟨⟨last, rfl, fun i hi => ⟨by omega, hrejected i hi⟩, ?_⟩, by simp; omega, ?_, ?_⟩
  · by_cases h : t.Rejects (answers last)
    · obtain ⟨response, e, hanswer, hjudge⟩ := h
      have hspent : last = t.options.maxRepairAttempts :=
        hlast.resolve_right fun h => h ⟨response, e, hanswer, hjudge⟩
      exact .inr (.inr ⟨response, e, hanswer, hjudge, hspent, by simp [hanswer, outcome, hjudge]⟩)
    · exact (outcome_of_not_rejects h).imp id .inl
  · intro hall
    have hspent : last = t.options.maxRepairAttempts := hlast.resolve_right fun h => h (hall _ hle)
    simp [hspent, Nat.add_comm]
  · rw [List.isChain_iff_getElem]
    intro i hi
    have hrejects : t.Rejects (answers i) := hrejected i (by simpa using hi)
    have hgrows := hrejects.length_amendment
    simp only [List.getElem_map, List.getElem_range]
    show _ <+: t.promptAt preamble request answers (i + 1) ∧
      _ < (t.promptAt preamble request answers (i + 1)).length
    rw [promptAt_succ]
    exact ⟨List.prefix_append .., by simp [promptAt]; omega⟩

end Translator

end SchemaDialogue
