import SchemaDialogue.Proofs.CheckViews
import SchemaDialogue.Proofs.Generics
import SchemaDialogue.Proofs.Termination

/-!
# Contexts stay closed

In contexts the check is the same recursion as in scopes, but nothing in it says that what is bound
is closed, nor that it ends. The context of a scope is all that the check sees of it
(`Scope.kept_context`). So where it begins with nothing bound, the check in contexts makes the calls
of the check in scopes, each in the context of its scope, and comes to their answers
(`Registry.contexts_closed`).
-/

namespace SchemaDialogue

/-- A context asks and enters as its scope does. -/
theorem Scope.kept_context : Binding.Kept Scope.context where
  standsFor scope t := by
    cases t with
    | var name => exact Scope.find?_context name
    | _ => rfl
  enter scope params args := (scope.context_enter params args).symm
  enterRecord scope key params args := (scope.context_enterRecord key params args).symm

namespace Registry

variable {source : Registry}

/-- The plan of a call in a context. -/
abbrev contextPlan (source : Registry) (call : CheckCall Context) :
    CheckPlan Context call.Answer :=
  source.plan call

/-- The answer of a call in a context is that of the function that runs, in this scope. Records that
are collected are those that the search finds first, before all that it finds for other bases. -/
def Right (source : Registry) (scope : Scope) : (call : CheckCall Context) → call.Answer → Prop
  | .check _ left t value => (· = source.check scope left t value)
  | .record _ r members => (· = source.recordFindings scope r members)
  | .shape _ r => (· = (source.shape scope r).map Scope.context)
  | .collect _ r visited => fun answer =>
    ∃ found, answer.1 = ((r, scope) :: found).map (Prod.map id Scope.context) ∧
      ∀ rest, source.ancestryFrom inheritScope (r.bases.map (·, scope) ++ rest) visited =
        found ++ source.ancestryFrom inheritScope rest (answer.2 ++ visited)
  | .literalChoices _ left members => (· = source.literalChoices left scope members)
  | .kindMatches _ left t value => (· = source.kindMatches left scope t value)
  | .discriminates _ left t value => (· = source.discriminates left scope t value)
  | .resolveRecord _ left t =>
    (· = (source.resolveRecord left scope t).map (Prod.map id Scope.context))

/-- The answer in a scope is right in its context. -/
theorem right_mapAnswer (source : Registry) (call : CheckCall Scope) :
    source.Right call.scope (call.map Scope.context)
      (call.mapAnswer Scope.context (source.answer call)) := by
  cases call with
  | collect scope r visited =>
    exact ⟨_, rfl, fun rest => source.ancestryFrom_append inheritScope scope r.bases rest visited⟩
  | _ => rfl

/-- A call in the context of a scope is answered. -/
theorem exists_nested_context (source : Registry) (call : CheckCall Scope) :
    ∃ depth, Plan.nested source.contextPlan depth (call.map Scope.context) =
      some (call.mapAnswer Scope.context (source.answer call)) := by
  obtain ⟨depth, answered⟩ :=
    Plan.exists_nested source.wellFounded_smaller source.only_plan source.result_plan call
  have seen := Plan.nested_view (source.seen_plan Scope.kept_context) depth call
  rw [answered] at seen
  exact ⟨depth, seen⟩

/-- What is called on the way is called in the context of a scope. -/
theorem exists_scope_of_mem_trace {depth : Nat} (call : CheckCall Scope)
    {call' : CheckCall Context}
    (mem : call' ∈ Plan.trace source.contextPlan depth (call.map Scope.context)) :
    ∃ made : CheckCall Scope, made.map Scope.context = call' := by
  have seen := Plan.trace_view (source.seen_plan Scope.kept_context) depth call
  obtain ⟨made, _, same⟩ := List.mem_map.mp (seen ▸ mem)
  exact ⟨made, same⟩

/-- **Contexts stay closed, in every check of every value.** The check in contexts comes to the
findings. Whatever it calls on the way is called in a context in which neither a type parameter nor
`self` occurs at any depth of what is bound, and comes to the answer of the function that runs, in
the scope of that context. So what a parameter or `self` stands for leads to no further one, and is
left as it is by substitution in any context. -/
theorem contexts_closed (source : Registry) (t : TypeExpr) (value : Json) :
    (∃ depth, Plan.nested source.contextPlan depth (.check .empty expansionLimit t value) =
      some (source.findings t value)) ∧
    ∀ depth, ∀ call ∈ Plan.trace source.contextPlan depth (.check .empty expansionLimit t value),
      call.scope.Closed ∧
      (∃ scope : Scope, scope.context = call.scope ∧ ∃ deeper answer,
        Plan.nested source.contextPlan deeper call = some answer ∧
          source.Right scope call answer) ∧
      ∀ step bound, call.scope.standsFor step = some bound →
        (∀ part, TypeExpr.Part part bound → part ≠ .self ∧ ∀ name, part ≠ .var name) ∧
        ∀ c : Context, c.substitute bound = bound := by
  refine ⟨source.exists_nested_context (.check .empty expansionLimit t value), ?_⟩
  intro depth call mem
  obtain ⟨made, rfl⟩ :=
    exists_scope_of_mem_trace (.check .empty expansionLimit t value) mem
  obtain ⟨deeper, answered⟩ := source.exists_nested_context made
  have closed : (made.map Scope.context).scope.Closed :=
    made.scope_map Scope.context ▸ made.scope.closed_context
  refine ⟨closed, ⟨made.scope, (made.scope_map Scope.context).symm, deeper, _, answered,
    source.right_mapAnswer made⟩, fun step bound stands => ⟨fun part occurs => ?_, fun c => ?_⟩⟩
  · have := occurs.isClosed (closed.standsFor stands)
    constructor
    · rintro rfl
      cases this
    · rintro name rfl
      cases this
  · exact c.substitute_of_closed (closed.standsFor stands)

end Registry

/-! ## A parameter of the caller and one of the callee -/

/-- A record that holds a box of lists. Both have a parameter of the same name. -/
def chestDef : RecordDef :=
  { name := "Chest", typeParams := ["T"]
    fields := [{ name := "box", type := .named "Box" [.list (some (.var "T"))] }] }

/-- The record and the box. -/
def chests : Registry := ⟨[("Chest", .record chestDef), ("Box", .record boxDef)], []⟩

/-- A chest of texts. -/
def chest : Json := .object [("box", .object [("content", .array [.string "x"])])]

/-- The context inside the box of a chest of texts. -/
def boxContext : Context :=
  ⟨[("T", .list (some .string))], some (.named "Box" [.list (some .string)])⟩

/-- Inside the box its parameter stands for a list of texts, and not for a list of its own. -/
theorem Registry.contexts_closed_chest :
    .check boxContext expansionLimit (.var "T") (.array [.string "x"]) ∈
        Plan.trace chests.contextPlan 8
          (.check .empty expansionLimit (.named "Chest" [.string]) chest) ∧
      boxContext.standsFor (.var "T") = some (.list (some .string)) ∧
      boxContext.Closed ∧
      ∀ c : Context, c.substitute (.list (some .string)) = .list (some .string) := by
  have mem : CheckCall.check boxContext expansionLimit (.var "T") (.array [.string "x"]) ∈
      Plan.trace chests.contextPlan 8
        (.check .empty expansionLimit (.named "Chest" [.string]) chest) :=
    List.mem_of_getElem? (i := 8) rfl
  obtain ⟨closed, _, stands⟩ := (chests.contexts_closed _ _).2 8 _ mem
  exact ⟨mem, rfl, closed, (stands (.var "T") _ rfl).2⟩

end SchemaDialogue
