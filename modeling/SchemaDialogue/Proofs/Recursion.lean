import Mathlib.Init

/-!
# Recursions as plans

A function that calls itself is written as a plan for each of its calls: the result, or a further
call and how to go on with its answer. A plan makes no call by itself, so it can be read in several
ways: with all answers given; as the condition that every call it may ever make satisfies; and with
calls nested to some depth only, without a result if that does not suffice.

`exists_nested` is what makes a recursion end: when every call is of something smaller, some depth
suffices for each call, and the result is the one that the equations of the function give.
-/

namespace SchemaDialogue

/-- A computation that may make calls. -/
inductive Plan {Call : Type} (Answer : Call → Type) (α : Type) where
  | done (result : α)
  | ask (call : Call) (next : Answer call → Plan Answer α)

namespace Plan

variable {Call : Type} {Answer : Call → Type} {α β : Type}

/-- One plan after the other. -/
def bind : Plan Answer α → (α → Plan Answer β) → Plan Answer β
  | done a, k => k a
  | ask call next, k => ask call fun answer => (next answer).bind k

instance : Monad (Plan Answer) where
  pure := done
  bind := bind

/-- Make one call. -/
def call (c : Call) : Plan Answer (Answer c) := ask c done

/-- The result when all calls have the given answers. -/
def result (answers : (c : Call) → Answer c) : Plan Answer α → α
  | done a => a
  | ask call next => (next (answers call)).result answers

/-- The calls that are made when they have the given answers. -/
def calls (answers : (c : Call) → Answer c) : Plan Answer α → List Call
  | done _ => []
  | ask call next => call :: (next (answers call)).calls answers

/-- Whatever the answers are, each call satisfies the condition. -/
def Only (P : Call → Prop) : Plan Answer α → Prop
  | done _ => True
  | ask call next => P call ∧ ∀ answer, (next answer).Only P

/-- The result when only some calls are answered, if these are enough. -/
def within (answers : (c : Call) → Option (Answer c)) : Plan Answer α → Option α
  | done a => some a
  | ask call next => (answers call).bind fun answer => (next answer).within answers

/-- The calls that are made as far as they are answered, the last one perhaps without answer. -/
def callsWithin (answers : (c : Call) → Option (Answer c)) : Plan Answer α → List Call
  | done _ => []
  | ask call next =>
    call :: match answers call with
      | some answer => (next answer).callsWithin answers
      | none => []

@[simp] theorem callsWithin_call (answers : (c : Call) → Option (Answer c)) (c : Call) :
    (call c : Plan Answer _).callsWithin answers = [c] := by
  rw [call, callsWithin]
  cases answers c <;> rfl

section

variable {answers : (c : Call) → Answer c} {P : Call → Prop}

@[simp] theorem result_pure (a : α) : (pure a : Plan Answer α).result answers = a := rfl

@[simp] theorem result_call (c : Call) : (call c : Plan Answer _).result answers = answers c := rfl

@[simp] theorem result_bind (p : Plan Answer α) (k : α → Plan Answer β) :
    (p >>= k).result answers = (k (p.result answers)).result answers := by
  induction p with
  | done a => rfl
  | ask c next ih => exact ih (answers c)

@[simp] theorem only_pure (a : α) : (pure a : Plan Answer α).Only P := trivial

@[simp] theorem only_call {c : Call} : (call c : Plan Answer _).Only P ↔ P c :=
  ⟨And.left, fun h => ⟨h, fun _ => trivial⟩⟩

theorem Only.bind {p : Plan Answer α} {k : α → Plan Answer β} (hp : p.Only P)
    (hk : ∀ a, (k a).Only P) : (p >>= k).Only P := by
  induction p with
  | done a => exact hk a
  | ask c next ih => exact ⟨hp.1, fun answer => ih answer (hp.2 answer)⟩

/-- What holds of every call that may be made holds of those that are made. -/
theorem Only.of_mem_calls {p : Plan Answer α} (h : p.Only P) {c : Call}
    (hc : c ∈ p.calls answers) : P c := by
  induction p with
  | done a => cases hc
  | ask first next ih =>
    rcases List.mem_cons.1 hc with rfl | hc
    · exact h.1
    · exact ih _ (h.2 _) hc

/-- Answers to the calls that are made are enough. -/
theorem within_eq_some {p : Plan Answer α} {some' : (c : Call) → Option (Answer c)}
    (h : ∀ c ∈ p.calls answers, some' c = some (answers c)) :
    p.within some' = some (p.result answers) := by
  induction p with
  | done a => rfl
  | ask first next ih =>
    rw [within, h first List.mem_cons_self]
    exact ih _ fun c hc => h c (List.mem_cons_of_mem _ hc)

/-- More answers do not change a result. -/
theorem within_mono {p : Plan Answer α} {fewer more : (c : Call) → Option (Answer c)} {a : α}
    (hmore : ∀ c answer, fewer c = some answer → more c = some answer)
    (h : p.within fewer = some a) : p.within more = some a := by
  induction p with
  | done b => exact h
  | ask first next ih =>
    obtain ⟨answer, hfirst, hnext⟩ := Option.bind_eq_some_iff.1 h
    rw [within, hmore first answer hfirst]
    exact ih answer hnext

end

/-! ## Plans over lists -/

/-- A plan for each item. -/
def each (f : α → Plan Answer β) : List α → Plan Answer (List β)
  | [] => pure []
  | a :: rest => do
    let b ← f a
    let others ← each f rest
    pure (b :: others)

/-- The items that a plan keeps. -/
def keep (f : α → Plan Answer Bool) : List α → Plan Answer (List α)
  | [] => pure []
  | a :: rest => do
    let kept ← f a
    let others ← keep f rest
    pure (if kept then a :: others else others)

/-- Does a plan accept some item? The items after it are not tried. -/
def anyOf (f : α → Plan Answer Bool) : List α → Plan Answer Bool
  | [] => pure false
  | a :: rest => do
    if ← f a then pure true
    else anyOf f rest

/-- What the plans of all items give, unless some plan gives nothing. The items after it are not
tried. -/
def allOf (f : α → Plan Answer (Option β)) : List α → Plan Answer (Option (List β))
  | [] => pure (some [])
  | a :: rest => do
    match ← f a with
    | none => pure none
    | some b =>
      let others ← allOf f rest
      pure (others.map (b :: ·))

section

variable {answers : (c : Call) → Answer c} {P : Call → Prop}

@[simp] theorem result_each (f : α → Plan Answer β) (l : List α) :
    (each f l).result answers = l.map fun a => (f a).result answers := by
  induction l with
  | nil => rfl
  | cons a rest ih => simp [each, ih]

@[simp] theorem result_keep (f : α → Plan Answer Bool) (l : List α) :
    (keep f l).result answers = l.filter fun a => (f a).result answers := by
  induction l with
  | nil => rfl
  | cons a rest ih => simp [keep, ih, List.filter_cons]

@[simp] theorem result_anyOf (f : α → Plan Answer Bool) (l : List α) :
    (anyOf f l).result answers = l.any fun a => (f a).result answers := by
  induction l with
  | nil => rfl
  | cons a rest ih =>
    simp only [anyOf, result_bind, List.any_cons]
    cases (f a).result answers <;> simp [ih]

@[simp] theorem result_allOf (f : α → Plan Answer (Option β)) (l : List α) :
    (allOf f l).result answers = l.mapM fun a => (f a).result answers := by
  induction l with
  | nil => rfl
  | cons a rest ih =>
    simp only [allOf, result_bind, List.mapM_cons]
    cases (f a).result answers with
    | none => rfl
    | some b =>
      simp only [result_bind, ih, result_pure]
      cases rest.mapM fun a => (f a).result answers <;> rfl

theorem each_map {γ : Type} (f : α → Plan Answer β) (e : γ → α) (l : List γ) :
    each f (l.map e) = each (fun c => f (e c)) l := by
  induction l with
  | nil => rfl
  | cons c rest ih => rw [List.map_cons, each, each, ih]

theorem only_each {f : α → Plan Answer β} {l : List α} (h : ∀ a ∈ l, (f a).Only P) :
    (each f l).Only P := by
  induction l with
  | nil => trivial
  | cons a rest ih =>
    refine (h a List.mem_cons_self).bind fun b => ?_
    exact (ih fun c hc => h c (List.mem_cons_of_mem _ hc)).bind fun _ => only_pure _

theorem only_keep {f : α → Plan Answer Bool} {l : List α} (h : ∀ a ∈ l, (f a).Only P) :
    (keep f l).Only P := by
  induction l with
  | nil => trivial
  | cons a rest ih =>
    refine (h a List.mem_cons_self).bind fun kept => ?_
    exact (ih fun c hc => h c (List.mem_cons_of_mem _ hc)).bind fun _ => only_pure _

theorem only_anyOf {f : α → Plan Answer Bool} {l : List α} (h : ∀ a ∈ l, (f a).Only P) :
    (anyOf f l).Only P := by
  induction l with
  | nil => trivial
  | cons a rest ih =>
    refine (h a List.mem_cons_self).bind fun accepted => ?_
    cases accepted with
    | true => trivial
    | false => exact ih fun c hc => h c (List.mem_cons_of_mem _ hc)

theorem only_allOf {f : α → Plan Answer (Option β)} {l : List α} (h : ∀ a ∈ l, (f a).Only P) :
    (allOf f l).Only P := by
  induction l with
  | nil => trivial
  | cons a rest ih =>
    refine (h a List.mem_cons_self).bind fun found => ?_
    cases found with
    | none => trivial
    | some b =>
      exact (ih fun c hc => h c (List.mem_cons_of_mem _ hc)).bind fun _ => only_pure _

end

/-! ## Recursions -/

section

variable (recursion : (c : Call) → Plan Answer (Answer c))

/-- The answer to a call, if its calls are nested no deeper than this. -/
def nested : Nat → (c : Call) → Option (Answer c)
  | 0, _ => none
  | depth + 1, c => (recursion c).within (nested depth)

/-- The calls that are made in the course of a call, itself included, if calls are nested no deeper
than this. -/
def trace : Nat → Call → List Call
  | 0, c => [c]
  | depth + 1, c =>
    c :: ((recursion c).callsWithin (nested recursion depth)).flatMap (trace depth)

variable {recursion}

theorem nested_succ {depth : Nat} {c : Call} {answer : Answer c}
    (h : nested recursion depth c = some answer) :
    nested recursion (depth + 1) c = some answer := by
  induction depth generalizing c with
  | zero => cases h
  | succ depth ih => exact within_mono (fun _ _ => ih) h

theorem nested_mono {depth deeper : Nat} (hle : depth ≤ deeper) {c : Call} {answer : Answer c}
    (h : nested recursion depth c = some answer) : nested recursion deeper c = some answer := by
  induction hle with
  | refl => exact h
  | step _ ih => exact nested_succ ih

variable {answers : (c : Call) → Answer c}

/-- Depths that suffice for each of some calls give one that suffices for all of them. -/
theorem exists_nested_forall {cs : List Call}
    (h : ∀ c ∈ cs, ∃ depth, nested recursion depth c = some (answers c)) :
    ∃ depth, ∀ c ∈ cs, nested recursion depth c = some (answers c) := by
  induction cs with
  | nil => exact ⟨0, by simp⟩
  | cons c rest ih =>
    obtain ⟨first, hfirst⟩ := h c List.mem_cons_self
    obtain ⟨others, hothers⟩ := ih fun c hc => h c (List.mem_cons_of_mem _ hc)
    refine ⟨max first others, fun c' hc' => ?_⟩
    rcases List.mem_cons.1 hc' with rfl | hc'
    · exact nested_mono (Nat.le_max_left _ _) hfirst
    · exact nested_mono (Nat.le_max_right _ _) (hothers c' hc')

/-- A recursion whose calls are of something smaller ends: for every call there is a depth of calls
that suffices, and what comes out are the answers that fulfil the equations of the recursion. -/
theorem exists_nested {smaller : Call → Call → Prop} (wf : WellFounded smaller)
    (decreasing : ∀ c, (recursion c).Only (smaller · c))
    (equations : ∀ c, (recursion c).result answers = answers c) (c : Call) :
    ∃ depth, nested recursion depth c = some (answers c) := by
  induction c using wf.induction with
  | _ c ih =>
    have hcalls : ∀ c' ∈ (recursion c).calls answers,
        ∃ depth, nested recursion depth c' = some (answers c') :=
      fun c' hc' => ih c' ((decreasing c).of_mem_calls hc')
    obtain ⟨depth, hdepth⟩ := exists_nested_forall hcalls
    exact ⟨depth + 1, by rw [nested, within_eq_some hdepth, equations]⟩

end

end Plan

end SchemaDialogue
