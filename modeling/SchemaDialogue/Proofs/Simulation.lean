import SchemaDialogue.Proofs.Recursion

/-!
# One recursion seen in another

Two recursions may do the same, call by call, one of them with more at hand than the other. A view
says which call of the second stands for a call of the first, and what becomes of its answers
(`Plan.View`). A plan is seen as another one when both make the same calls in this sense, whatever
the answers are, and come to the same result (`Plan.SeenAs`).

When the plan of each call is seen as that of the call that stands for it, whole runs are the same:
what comes of nested calls (`nested_view`), and the calls that are made on the way (`trace_view`).
Calls of the second recursion that stand for none of the first do not matter.
-/

namespace SchemaDialogue

namespace Plan

variable {Call Call' : Type} {Answer : Call → Type} {Answer' : Call' → Type}
  {α α' β β' : Type}

/-- The calls of one recursion and their answers, as they are in another. -/
structure View (Answer : Call → Type) (Answer' : Call' → Type) where
  call : Call → Call'
  answer : (c : Call) → Answer c → Answer' (call c)

/-- The plans make the same calls, and the result of the second is the image of that of the first,
as long as the answers are those that the view gives. -/
inductive SeenAs (view : View Answer Answer') (image : α → α') :
    Plan Answer α → Plan Answer' α' → Prop
  | done (a : α) : SeenAs view image (done a) (done (image a))
  | ask (c : Call) {next : Answer c → Plan Answer α}
      {next' : Answer' (view.call c) → Plan Answer' α'}
      (h : ∀ answer, SeenAs view image (next answer) (next' (view.answer c answer))) :
      SeenAs view image (ask c next) (ask (view.call c) next')

variable {view : View Answer Answer'} {image : α → α'} {p : Plan Answer α} {p' : Plan Answer' α'}

namespace SeenAs

/-- The results of plans that make no calls, the one the image of the other. -/
theorem pure {a : α} {a' : α'} (h : image a = a') :
    SeenAs view image (pure a : Plan Answer α) (pure a' : Plan Answer' α') :=
  h ▸ .done a

theorem call (c : Call) : SeenAs view (view.answer c) (call c) (call (view.call c)) :=
  .ask c fun answer => .done answer

theorem bind {image' : β → β'} {k : α → Plan Answer β} {k' : α' → Plan Answer' β'}
    (h : SeenAs view image p p') (next : ∀ a, SeenAs view image' (k a) (k' (image a))) :
    SeenAs view image' (p >>= k) (p' >>= k') := by
  induction h with
  | done a => exact next a
  | ask c _ ih => exact .ask c ih

/-! Plans over a list, whose results are the same. -/

theorem each {f : α → Plan Answer β} {f' : α → Plan Answer' β} {l : List α}
    (h : ∀ a, SeenAs view id (f a) (f' a)) : SeenAs view id (each f l) (each f' l) := by
  induction l with
  | nil => exact .done []
  | cons a rest ih => exact (h a).bind fun b => ih.bind fun others => .done (b :: others)

theorem keep {f : α → Plan Answer Bool} {f' : α → Plan Answer' Bool} {l : List α}
    (h : ∀ a, SeenAs view id (f a) (f' a)) : SeenAs view id (keep f l) (keep f' l) := by
  induction l with
  | nil => exact .done []
  | cons a rest ih => exact (h a).bind fun kept => ih.bind fun others => .done _

theorem anyOf {f : α → Plan Answer Bool} {f' : α → Plan Answer' Bool} {l : List α}
    (h : ∀ a, SeenAs view id (f a) (f' a)) : SeenAs view id (anyOf f l) (anyOf f' l) := by
  induction l with
  | nil => exact .done false
  | cons a rest ih =>
    refine (h a).bind fun accepted => ?_
    cases accepted with
    | true => exact .done true
    | false => exact ih

theorem allOf {f : α → Plan Answer (Option β)} {f' : α → Plan Answer' (Option β)} {l : List α}
    (h : ∀ a, SeenAs view id (f a) (f' a)) : SeenAs view id (allOf f l) (allOf f' l) := by
  induction l with
  | nil => exact .done _
  | cons a rest ih =>
    refine (h a).bind fun found => ?_
    cases found with
    | none => exact .done none
    | some b => exact ih.bind fun others => .done _

section

variable {answers : (c : Call) → Option (Answer c)} {answers' : (c : Call') → Option (Answer' c)}

/-- With the answers that the view gives, the one plan comes to the image of what the other one
comes to. -/
theorem within_eq (h : SeenAs view image p p')
    (same : ∀ c, answers' (view.call c) = (answers c).map (view.answer c)) :
    p'.within answers' = (p.within answers).map image := by
  induction h with
  | done a => rfl
  | ask c _ ih =>
    rw [within, within, same]
    cases answers c with
    | none => rfl
    | some answer => exact ih answer

theorem callsWithin_eq (h : SeenAs view image p p')
    (same : ∀ c, answers' (view.call c) = (answers c).map (view.answer c)) :
    p'.callsWithin answers' = (p.callsWithin answers).map view.call := by
  induction h with
  | done a => rfl
  | ask c _ ih =>
    rw [callsWithin, callsWithin, same, List.map_cons]
    cases answers c with
    | none => rfl
    | some answer => exact congrArg (view.call c :: ·) (ih answer)

end

end SeenAs

/-! ## Runs -/

variable {recursion : (c : Call) → Plan Answer (Answer c)}
  {recursion' : (c : Call') → Plan Answer' (Answer' c)}

theorem nested_view
    (seen : ∀ c, SeenAs view (view.answer c) (recursion c) (recursion' (view.call c)))
    (depth : Nat) (c : Call) :
    nested recursion' depth (view.call c) = (nested recursion depth c).map (view.answer c) := by
  induction depth generalizing c with
  | zero => rfl
  | succ depth ih => exact (seen c).within_eq ih

theorem trace_view
    (seen : ∀ c, SeenAs view (view.answer c) (recursion c) (recursion' (view.call c)))
    (depth : Nat) (c : Call) :
    trace recursion' depth (view.call c) = (trace recursion depth c).map view.call := by
  induction depth generalizing c with
  | zero => rfl
  | succ depth ih =>
    rw [trace, trace, (seen c).callsWithin_eq (nested_view seen depth), List.map_cons,
      List.flatMap_map, List.map_flatMap]
    simp only [ih]

end Plan

end SchemaDialogue
