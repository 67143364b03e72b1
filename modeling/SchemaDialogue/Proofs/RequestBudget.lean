import Mathlib.Algebra.Order.BigOperators.Group.List
import Mathlib.Algebra.Order.Ring.Nat
import Mathlib.Data.List.Chain
import SchemaDialogue.Endpoint.Exchange
import SchemaDialogue.Proofs.Conversation

/-!
# The budget of requests

Two loops decide how many requests are sent for one translation: a completion repeats its request
while it fails for a while only, and a conversation asks for another completion while answers are
rejected. The traffic of a translation is kept, one list for each completion, and two accounts are
made of it. Inside a completion, a request spends one retry; of the completions of a conversation,
each but the first spends one repair, and a completion that failed is the last.
-/

namespace SchemaDialogue

/-- A request that was sent, and what came of it. -/
structure Exchange where
  request : CompletionRequest
  delivery : Delivery

/-- The completion that an exchange brought, or its failure. -/
def Exchange.result (x : Exchange) : Except ModelError String := x.delivery.result x.request

/-- The exchanges of a translation, one list for each completion. -/
abbrev Traffic := List (List Exchange)

/-- A failure that may go away: one of five statuses, a timeout, or no connection. -/
def Delivery.IsTransient : Delivery → Prop
  | response status _ => status ∈ [429, 500, 502, 503, 504]
  | dropped => False
  | timedOut => True
  | refused => True

namespace Traffic

/-- A further completion begins. -/
def opened (traffic : Traffic) : Traffic := traffic ++ [[]]

/-- An exchange of the last completion. -/
def noted (traffic : Traffic) (x : Exchange) : Traffic :=
  traffic.dropLast ++ [traffic.getLast?.getD [] ++ [x]]

@[simp] theorem noted_concat (earlier : Traffic) (sent : List Exchange) (x : Exchange) :
    noted (earlier ++ [sent]) x = earlier ++ [sent ++ [x]] := by
  simp [noted]

/-- What is noted is sent after all that was sent before. -/
theorem flatten_noted (traffic : Traffic) (x : Exchange) :
    (traffic.noted x).flatten = traffic.flatten ++ [x] := by
  rcases List.eq_nil_or_concat traffic with rfl | ⟨earlier, sent, rfl⟩
  · rfl
  · rw [List.concat_eq_append, noted_concat]
    simp

/-- The transport to an endpoint that replies with a sequence of deliveries. Each `send` counts as
one request and gets the next delivery, whose response is final: what the client sends in addition
when it follows redirects is no part of it. No time passes. -/
def transport (replies : Nat → Delivery) : Transport (StateM Traffic) where
  send r := fun traffic =>
    let delivery := replies traffic.flatten.length
    (delivery, traffic.noted ⟨r, delivery⟩)
  sleep _ := pure ()

@[simp] theorem run_sleep (replies : Nat → Delivery) (pause : Nat) (traffic : Traffic) :
    ((transport replies).sleep pause).run traffic = ((), traffic) := rfl

/-- Two computations give the same, and send the same, from traffic that differs at most in where
completions begin. -/
def Same {β : Type} (p q : StateM Traffic β) : Prop :=
  ∀ s s' : Traffic, s.flatten = s'.flatten →
    ∃ b u u', p.run s = (b, u) ∧ q.run s' = (b, u') ∧ u.flatten = u'.flatten

end Traffic

namespace Delivery

/-- A body that is no completion does not get better by asking again. -/
theorem not_isTransient_of_completion {body : String} {e : ModelError}
    (h : completion body = .error e) : e.isTransient = false := by
  unfold completion at h
  split at h
  · cases h
    rfl
  · split at h
    · cases h
    · cases h
      rfl

/-- The failures that a retry answers are those that may go away. -/
theorem isTransient_iff_result (d : Delivery) (r : CompletionRequest) :
    d.IsTransient ↔ ∃ e, d.result r = .error e ∧ e.isTransient = true := by
  cases d with
  | response status body =>
    show status ∈ [429, 500, 502, 503, 504] ↔ _
    by_cases hfinal : isFinal status
    · by_cases hsuccess : 200 ≤ status ∧ status < 300
      · -- a success is none of the five statuses, and its body fails for good if at all
        simp only [result, hfinal, hsuccess]
        constructor
        · intro h
          simp only [List.mem_cons, List.not_mem_nil, or_false] at h
          omega
        · rintro ⟨e, he, htransient⟩
          simp [not_isTransient_of_completion he] at htransient
      · simp [result, hfinal, hsuccess, ModelError.isTransient, isTransientStatus]
    · -- an exchange that does not end has none of the five statuses either
      have hnot : status ∉ [429, 500, 502, 503, 504] := by
        intro h
        simp only [List.mem_cons, List.not_mem_nil, or_false] at h
        simp only [isFinal, Bool.or_eq_true, Bool.and_eq_true, decide_eq_true_eq] at hfinal
        omega
      simp [result, hfinal, hnot, ModelConfig.unsendable, ModelError.isTransient]
  | dropped => simp [IsTransient, result, ModelConfig.unsendable, ModelError.isTransient]
  | timedOut => simp [IsTransient, result, ModelConfig.unsendable, ModelError.isTransient]
  | refused => simp [IsTransient, result, ModelConfig.unsendable, ModelError.isTransient]

end Delivery

namespace Retry

variable {α σ : Type}

/-- One attempt, when retries are left. -/
theorem attempts_succ_run (config : RetryConfig) (sleep : Nat → StateM σ Unit)
    (attempt : StateM σ (Except ModelError α)) (left pause : Nat) (s : σ) :
    (attempts config sleep attempt (left + 1) pause).run s =
      match attempt.run s with
      | (.ok value, s') => (.ok value, s')
      | (.error e, s') =>
        if e.isTransient then
          (attempts config sleep attempt left (nextPause config pause)).run ((sleep pause).run s').2
        else (.error e, s') := by
  rw [attempts, StateT.run_bind]
  rcases attempt.run s with ⟨e | value, s'⟩
  · show StateT.run (if e.isTransient then _ else _) s' = _
    dsimp only
    split
    · rfl
    · rfl
  · rfl

end Retry

namespace ModelConfig

variable {c : ModelConfig} {replies : Nat → Delivery} {prompt : List Section}

/-- A completion over an endpoint, whose exchanges are kept apart from those before it. -/
def recorded (c : ModelConfig) (replies : Nat → Delivery) (prompt : List Section) :
    StateM Traffic (Except ModelError String) := do
  modify Traffic.opened
  c.complete (Traffic.transport replies) prompt

/-- The exchanges of one completion and the answer it ends with. -/
structure Exchanges (c : ModelConfig) (prompt : List Section) (retries : Nat)
    (sent : List Exchange) (answer : Except ModelError String) : Prop where
  /-- All send the request of the prompt. -/
  request_eq : ∀ x ∈ sent, c.request prompt = .ok x.request
  /-- One is sent at first, and one for each retry. -/
  length_le : sent.length ≤ 1 + retries
  /-- A request follows a failure that may go away. -/
  onward : sent.IsChain fun x _ => x.delivery.IsTransient
  /-- The last exchange decides the answer; without any, the request could not be built. -/
  last : (∃ x ∈ sent.getLast?, answer = x.result) ∨
    sent = [] ∧ ∃ e, c.request prompt = .error e ∧ answer = .error e

namespace Exchanges

variable {retries : Nat} {sent : List Exchange} {answer : Except ModelError String}

/-- A completion whose request cannot be built sends nothing. -/
theorem unsent {e : ModelError} (h : c.request prompt = .error e) :
    c.Exchanges prompt retries [] (.error e) where
  request_eq := by simp
  length_le := by simp
  onward := .nil
  last := .inr ⟨rfl, e, h, rfl⟩

/-- A completion that one exchange decides. -/
theorem single {r : CompletionRequest} (d : Delivery) (h : c.request prompt = .ok r) :
    c.Exchanges prompt retries [⟨r, d⟩] (d.result r) where
  request_eq := by simpa using h
  length_le := by simp
  onward := .singleton _
  last := .inl ⟨⟨r, d⟩, rfl, rfl⟩

/-- A failure that may go away spends one retry on the exchanges after it. -/
theorem cons {r : CompletionRequest} {d : Delivery} (h : c.request prompt = .ok r)
    (hd : d.IsTransient) (hrest : c.Exchanges prompt retries sent answer) :
    c.Exchanges prompt (retries + 1) (⟨r, d⟩ :: sent) answer where
  request_eq := by
    intro x hx
    rcases List.mem_cons.1 hx with rfl | hx
    · exact h
    · exact hrest.request_eq x hx
  length_le := by
    have := hrest.length_le
    simp only [List.length_cons]
    omega
  onward := by
    cases sent with
    | nil => exact .singleton _
    | cons y rest => exact List.isChain_cons_cons.2 ⟨hd, hrest.onward⟩
  last := by
    rcases hrest.last with ⟨x, hx, hanswer⟩ | ⟨-, e, he, -⟩
    · refine .inl ⟨x, ?_, hanswer⟩
      rw [Option.mem_def] at hx ⊢
      rw [List.getLast?_cons, hx]
      rfl
    · rw [h] at he
      cases he

/-- Nothing is sent after a failure for good, nor after a failure with no retry left. -/
theorem after_eq_nil {before after : List Exchange} {x : Exchange}
    (h : c.Exchanges prompt retries (before ++ x :: after) answer)
    (hx : ¬ x.delivery.IsTransient ∨ before.length = retries) : after = [] := by
  cases after with
  | nil => rfl
  | cons y rest =>
    rcases hx with hx | hx
    · exact absurd (List.isChain_append_cons_cons.1 h.onward).2.1 hx
    · have := h.length_le
      simp only [List.length_append, List.length_cons] at this
      omega

end Exchanges

/-- One attempt sends the request of the prompt, if there is one. -/
theorem attempt_run (traffic : Traffic) :
    (c.attempt (Traffic.transport replies) prompt).run traffic =
      match c.request prompt with
      | .error e => (.error e, traffic)
      | .ok r =>
        ((replies traffic.flatten.length).result r,
          traffic.noted ⟨r, replies traffic.flatten.length⟩) := by
  unfold attempt
  cases c.request prompt <;> rfl

theorem same_attempt (c : ModelConfig) (replies : Nat → Delivery) (prompt : List Section) :
    Traffic.Same (c.attempt (Traffic.transport replies) prompt)
      (c.attempt (Traffic.transport replies) prompt) := by
  intro s s' h
  rw [attempt_run, attempt_run]
  cases c.request prompt with
  | error e => exact ⟨_, s, s', rfl, rfl, h⟩
  | ok r =>
    rw [h]
    exact ⟨_, _, _, rfl, rfl, by rw [Traffic.flatten_noted, Traffic.flatten_noted, h]⟩

theorem same_attempts (c : ModelConfig) (replies : Nat → Delivery) (prompt : List Section)
    (left pause : Nat) :
    Traffic.Same
      (Retry.attempts c.retry (Traffic.transport replies).sleep
        (c.attempt (Traffic.transport replies) prompt) left pause)
      (Retry.attempts c.retry (Traffic.transport replies).sleep
        (c.attempt (Traffic.transport replies) prompt) left pause) := by
  induction left generalizing pause with
  | zero => exact c.same_attempt replies prompt
  | succ left ih =>
    intro s s' h
    obtain ⟨answer, u, u', hrun, hrun', hsent⟩ := c.same_attempt replies prompt s s' h
    rw [Retry.attempts_succ_run, Retry.attempts_succ_run, hrun, hrun']
    cases answer with
    | ok value => exact ⟨_, u, u', rfl, rfl, hsent⟩
    | error e =>
      dsimp only
      split
      · exact ih _ u u' hsent
      · exact ⟨_, u, u', rfl, rfl, hsent⟩

/-- Where a completion begins makes no difference to it. -/
theorem same_recorded (c : ModelConfig) (replies : Nat → Delivery) (prompt : List Section) :
    Traffic.Same (c.recorded replies prompt)
      (c.complete (Traffic.transport replies) prompt) := by
  intro s s' h
  have hopened : s.opened.flatten = s'.flatten := by
    rw [Traffic.opened, List.flatten_concat, List.append_nil, h]
  exact c.same_attempts replies prompt _ _ s.opened s' hopened

/-- A request that cannot be built fails for good. -/
theorem not_isTransient_of_request {e : ModelError} (h : c.request prompt = .error e) :
    e.isTransient = false := by
  simp only [request] at h
  repeat' split at h
  all_goals cases h
  all_goals rfl

/-- The attempts of a completion add exchanges to it, and to no completion before it. -/
theorem attempts_run (earlier : Traffic) (sent : List Exchange) (left pause : Nat) :
    ∃ answer further,
      (Retry.attempts c.retry (Traffic.transport replies).sleep
        (c.attempt (Traffic.transport replies) prompt) left pause).run (earlier ++ [sent]) =
          (answer, earlier ++ [sent ++ further]) ∧
      c.Exchanges prompt left further answer := by
  induction left generalizing sent pause with
  | zero =>
    rw [Retry.attempts, attempt_run]
    cases hrequest : c.request prompt with
    | error e => exact ⟨.error e, [], by simp, .unsent hrequest⟩
    | ok r =>
      simp only [Traffic.noted_concat]
      exact ⟨_, _, rfl, .single _ hrequest⟩
  | succ left ih =>
    rw [Retry.attempts_succ_run, attempt_run]
    cases hrequest : c.request prompt with
    | error e =>
      exact ⟨.error e, [], by simp [not_isTransient_of_request hrequest], .unsent hrequest⟩
    | ok r =>
      simp only [Traffic.noted_concat]
      generalize replies _ = d
      cases hresult : d.result r with
      | ok value => exact ⟨.ok value, [⟨r, d⟩], rfl, hresult ▸ .single d hrequest⟩
      | error e =>
        by_cases htransient : e.isTransient = true
        · -- the failure may go away: the attempts go on with one retry less
          obtain ⟨answer, further, hrun, hfurther⟩ :=
            ih (sent ++ [⟨r, d⟩]) (Retry.nextPause c.retry pause)
          have hd : d.IsTransient := (d.isTransient_iff_result r).2 ⟨e, hresult, htransient⟩
          refine ⟨answer, ⟨r, d⟩ :: further, ?_, hfurther.cons hrequest hd⟩
          simpa [htransient] using hrun
        · exact ⟨.error e, [⟨r, d⟩], by simp [htransient], hresult ▸ .single d hrequest⟩

/-- A completion adds its exchanges to the traffic, in a list of their own. -/
theorem recorded_run (c : ModelConfig) (replies : Nat → Delivery) (prompt : List Section)
    (traffic : Traffic) :
    ∃ answer sent, (c.recorded replies prompt).run traffic = (answer, traffic ++ [sent]) ∧
      c.Exchanges prompt c.retry.retries sent answer :=
  attempts_run traffic [] c.retry.retries c.retry.initialBackoff

/-- The exchanges of the completions of one conversation. -/
structure Completions (c : ModelConfig) (repairs : Nat) (traffic : Traffic) : Prop where
  /-- Each list belongs to one completion. -/
  each : ∀ sent ∈ traffic, ∃ prompt answer, c.Exchanges prompt c.retry.retries sent answer
  /-- One is asked for at first, and one for each repair. -/
  length_le : traffic.length ≤ 1 + repairs
  /-- A completion follows one whose last exchange brought a text. -/
  onward : traffic.IsChain fun sent _ =>
    ∃ x ∈ sent.getLast?, ∃ response, x.result = .ok response

namespace Completions

variable {repairs : Nat} {sent : List Exchange} {answer : Except ModelError String}
  {traffic : Traffic}

/-- A conversation of one completion. -/
theorem single (h : c.Exchanges prompt c.retry.retries sent answer) :
    c.Completions repairs [sent] where
  each := by simpa using ⟨prompt, answer, h⟩
  length_le := by simp
  onward := .singleton _

/-- A completion with an answer spends one repair on the completions after it. -/
theorem cons {response : String} (h : c.Exchanges prompt c.retry.retries sent (.ok response))
    (hrest : c.Completions repairs traffic) : c.Completions (repairs + 1) (sent :: traffic) where
  each := by
    intro other hother
    rcases List.mem_cons.1 hother with rfl | hother
    · exact ⟨prompt, .ok response, h⟩
    · exact hrest.each other hother
  length_le := by
    have := hrest.length_le
    simp only [List.length_cons]
    omega
  onward := by
    cases traffic with
    | nil => exact .singleton _
    | cons next rest =>
      refine List.isChain_cons_cons.2 ⟨?_, hrest.onward⟩
      rcases h.last with ⟨x, hx, hresult⟩ | ⟨-, e, -, he⟩
      · exact ⟨x, hx, response, hresult.symm⟩
      · cases he

/-- No conversation sends more requests than its completions may. -/
theorem length_flatten_le (h : c.Completions repairs traffic) :
    traffic.flatten.length ≤ (1 + c.retry.retries) * (1 + repairs) := by
  have hsum : (traffic.map List.length).sum ≤
      (traffic.map List.length).length • (1 + c.retry.retries) := by
    refine List.sum_le_card_nsmul _ _ ?_
    intro n hn
    obtain ⟨sent, hsent, rfl⟩ := List.mem_map.1 hn
    obtain ⟨prompt, answer, hex⟩ := h.each sent hsent
    exact hex.length_le
  rw [List.length_flatten]
  calc (traffic.map List.length).sum
    _ ≤ traffic.length * (1 + c.retry.retries) := by simpa using hsum
    _ ≤ (1 + repairs) * (1 + c.retry.retries) := Nat.mul_le_mul_right _ h.length_le
    _ = (1 + c.retry.retries) * (1 + repairs) := Nat.mul_comm _ _

/-- No completion is asked for after one whose last exchange failed. -/
theorem later_eq_nil {earlier later : Traffic} {before : List Exchange} {x : Exchange}
    {e : ModelError} (h : c.Completions repairs (earlier ++ (before ++ [x]) :: later))
    (hx : x.result = .error e) : later = [] := by
  cases later with
  | nil => rfl
  | cons next rest =>
    obtain ⟨y, hy, response, hresponse⟩ := (List.isChain_append_cons_cons.1 h.onward).2.1
    rw [List.getLast?_concat, Option.mem_some] at hy
    rw [← hy, hx] at hresponse
    cases hresponse

end Completions

end ModelConfig

namespace Translator

variable {α : Type}

/-- A conversation adds the exchanges of its completions to the traffic. -/
theorem converse_recorded (t : Translator α) (c : ModelConfig) (replies : Nat → Delivery)
    (repairs : Nat) (prompt : List Section) (traffic : Traffic) :
    ∃ further,
      ((t.converse (c.recorded replies) repairs prompt).run traffic).2 = traffic ++ further ∧
      c.Completions repairs further := by
  obtain ⟨answer, sent, hrun, hsent⟩ := c.recorded_run replies prompt traffic
  rw [converse_run, hrun]
  cases answer with
  | error e => exact ⟨[sent], rfl, .single hsent⟩
  | ok response =>
    dsimp only
    cases t.judge response with
    | ok value => exact ⟨[sent], rfl, .single hsent⟩
    | error e =>
      cases repairs with
      | zero => exact ⟨[sent], rfl, .single hsent⟩
      | succ repairs =>
        -- one repair is spent on the completions from the next one on
        obtain ⟨further, hfurther, hcompletions⟩ := converse_recorded t c replies repairs
          (prompt ++ [⟨.assistant, response⟩, ⟨.user, t.repairPrompt e.message⟩])
          (traffic ++ [sent])
        refine ⟨sent :: further, ?_, hcompletions.cons hsent⟩
        simpa using hfurther

/-- Models that give and send the same make conversations that give and send the same. -/
theorem same_converse (t : Translator α)
    {ask ask' : List Section → StateM Traffic (Except ModelError String)}
    (hask : ∀ prompt, Traffic.Same (ask prompt) (ask' prompt)) (repairs : Nat)
    (prompt : List Section) :
    Traffic.Same (t.converse ask repairs prompt) (t.converse ask' repairs prompt) := by
  intro s s' h
  obtain ⟨answer, u, u', hrun, hrun', hsent⟩ := hask prompt s s' h
  rw [converse_run, converse_run, hrun, hrun']
  cases answer with
  | error e => exact ⟨_, u, u', rfl, rfl, hsent⟩
  | ok response =>
    dsimp only
    cases t.judge response with
    | ok value => exact ⟨_, u, u', rfl, rfl, hsent⟩
    | error e =>
      cases repairs with
      | zero => exact ⟨_, u, u', rfl, rfl, hsent⟩
      | succ repairs => exact same_converse t hask repairs _ u u' hsent

/-- **Retries and repairs compose to a bounded budget of requests.** Whatever an endpoint delivers,
a translation sends at most one request and its retries for each of at most one completion and its
repairs. The requests of a completion have one body, one follows another only when that failed for a
while, and a failure for good, or one with no retry left, ends the whole translation. That the
completions are kept apart makes no difference to what is sent. -/
theorem translate_traffic (t : Translator α) (c : ModelConfig) (replies : Nat → Delivery)
    (preamble : Preamble) (request : String) :
    let traffic := ((t.translate (c.recorded replies) preamble.toSections request).run []).2
    traffic.flatten =
      ((t.translate (c.complete (Traffic.transport replies)) preamble.toSections request).run
        []).2.flatten ∧
    traffic.flatten.length ≤ (1 + c.retry.retries) * (1 + t.options.maxRepairAttempts) ∧
    traffic.length ≤ 1 + t.options.maxRepairAttempts ∧
    (∀ sent ∈ traffic, sent.length ≤ 1 + c.retry.retries) ∧
    (∀ sent ∈ traffic, ∀ x ∈ sent, ∀ y ∈ sent, x.request.body = y.request.body) ∧
    (∀ sent ∈ traffic, sent.IsChain fun x _ => x.delivery.IsTransient) ∧
    ∀ earlier before x after later,
      traffic = earlier ++ (before ++ x :: after) :: later →
      (∃ e, x.result = .error e) →
      ¬ x.delivery.IsTransient ∨ before.length = c.retry.retries →
        after = [] ∧ later = [] := by
  obtain ⟨traffic, htraffic, hcompletions⟩ := t.converse_recorded c replies
    t.options.maxRepairAttempts (preamble.toSections ++ [⟨.user, t.requestPrompt request⟩]) []
  obtain ⟨result, u, u', hrun, hrun', hsame⟩ := t.same_converse (c.same_recorded replies)
    t.options.maxRepairAttempts (preamble.toSections ++ [⟨.user, t.requestPrompt request⟩])
    [] [] rfl
  rw [hrun, List.nil_append] at htraffic
  obtain rfl : u = traffic := htraffic
  rw [translate, translate, hrun, hrun']
  show _ ∧ _
  refine ⟨hsame, hcompletions.length_flatten_le, hcompletions.length_le, ?_, ?_, ?_, ?_⟩
  · intro sent hsent
    obtain ⟨prompt, answer, hex⟩ := hcompletions.each sent hsent
    exact hex.length_le
  · intro sent hsent x hx y hy
    obtain ⟨prompt, answer, hex⟩ := hcompletions.each sent hsent
    have hxy : Except.ok x.request = Except.ok y.request :=
      (hex.request_eq x hx).symm.trans (hex.request_eq y hy)
    rw [Except.ok.inj hxy]
  · intro sent hsent
    obtain ⟨prompt, answer, hex⟩ := hcompletions.each sent hsent
    exact hex.onward
  · rintro earlier before x after later heq ⟨e, he⟩ hspent
    obtain rfl : u = _ := heq
    obtain ⟨prompt, answer, hex⟩ := hcompletions.each (before ++ x :: after) (by simp)
    obtain rfl : after = [] := hex.after_eq_nil hspent
    exact ⟨rfl, hcompletions.later_eq_nil he⟩

end Translator

end SchemaDialogue
