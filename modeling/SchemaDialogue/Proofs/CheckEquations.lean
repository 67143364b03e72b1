import SchemaDialogue.Proofs.CheckPlan
import SchemaDialogue.Proofs.Exploration
import SchemaDialogue.Proofs.Verdict

/-!
# The equations of the check

When each call of the check has the answer of the function that runs, the plan of a call in a scope
comes to the answer of that call (`Registry.result_plan`). So the functions that run satisfy the
equations of the recursion.
-/

namespace SchemaDialogue

variable {σ : Type} {source : Registry}

/-! ## The functions that run -/

namespace Registry

/-- The findings about the members of an object that should be a record. -/
def recordFindings (source : Registry) (scope : Scope) (r : RecordDef) (members : Entries Json) :
    List Finding :=
  (source.shape scope r).fields.flatMap (source.fieldFindings members) ++
    members.flatMap (source.memberFindings (source.shape scope r))

/-- A record and those it inherits from that have not been visited, with the keys that are visited
for them. -/
def collected (source : Registry) (scope : Scope) (r : RecordDef) (visited : List TypeKey) :
    List (RecordDef × Scope) × List TypeKey :=
  let inherited := source.explore inheritScope scope r.bases visited
  ((r, scope) :: inherited.1, inherited.2)

/-- The answers of the functions that the check consists of. -/
def answer (source : Registry) : (call : CheckCall Scope) → call.Answer
  | .check scope left t value => source.check scope left t value
  | .record scope r members => source.recordFindings scope r members
  | .shape scope r => source.shape scope r
  | .collect scope r visited => source.collected scope r visited
  | .literalChoices scope left members => source.literalChoices left scope members
  | .kindMatches scope left t value => source.kindMatches left scope t value
  | .discriminates scope left t value => source.discriminates left scope t value
  | .resolveRecord scope left t => source.resolveRecord left scope t

end Registry

/-! ## What comes of a plan -/

namespace CheckPlan

/-- A base that leads to a record is searched with all that it inherits from. -/
theorem bases_of_leads [Binding σ] {scope : σ} {visited : List TypeKey} {base : TypeExpr}
    {rest : List TypeExpr} {key : TypeKey} {args : List TypeExpr} {r : RecordDef}
    (h : source.Leads visited base key args r) :
    bases source scope (base :: rest) visited = (do
      let first : List (RecordDef × σ) × List TypeKey ←
        ask (.collect (Binding.enter scope r.typeParams args) r (key :: visited))
      let others ← bases source scope rest (first.2 ++ key :: visited)
      pure (first.1 ++ others.1, others.2 ++ (first.2 ++ [key]))) := by
  simp only [bases, h.named, h.lookup]
  exact if_pos h.fresh

/-- A base that leads to no record is passed over. -/
theorem bases_of_idle [Binding σ] {scope : σ} {visited : List TypeKey} {base : TypeExpr}
    {rest : List TypeExpr} (idle : ∀ key args r, ¬source.Leads visited base key args r) :
    bases source scope (base :: rest) visited = bases source scope rest visited := by
  rw [bases]
  split
  · rename_i key args named
    split
    · rename_i fresh
      split
      · rename_i r lookup
        exact absurd ⟨named, fresh, lookup⟩ (idle key args r)
      · rfl
    · rfl
  · rfl

theorem result_bases (scope : Scope) (list : List TypeExpr) (visited : List TypeKey) :
    (bases source scope list visited).result source.answer =
      source.explore Registry.inheritScope scope list visited := by
  induction list generalizing visited with
  | nil => rw [Registry.explore_nil]; rfl
  | cons base rest ih =>
    rcases source.leads_cases visited base with ⟨key, args, r, leads⟩ | idle
    · rw [bases_of_leads leads, Registry.explore_of_leads leads]
      simp only [Plan.result_bind, Plan.result_pure, ih]
      rfl
    · rw [bases_of_idle idle, Registry.explore_of_idle idle, ih]

theorem result_collect (scope : Scope) (r : RecordDef) (visited : List TypeKey) :
    (collect source scope r visited).result source.answer = source.collected scope r visited := by
  simp only [collect, Plan.result_bind, Plan.result_pure, result_bases]
  rfl

theorem result_shape (scope : Scope) (r : RecordDef) :
    (shape scope r).result source.answer = source.shape scope r := by
  rw [Registry.shape, Registry.lineage, Registry.ancestry_eq_explore]
  rfl

@[simp] theorem result_part (name : String) (scope : Scope) (t : TypeExpr) (item : Json) :
    (part name scope t item).result source.answer =
      (source.check scope expansionLimit t item).map (·.within name) := rfl

theorem result_field (members : Entries Json) (f : ShapeField Scope) :
    (field members f).result source.answer = source.fieldFindings members f := by
  unfold field Registry.fieldFindings
  cases Entries.find? members f.name with
  | none => rfl
  | some item => exact result_part ..

theorem result_further (shape : Shape Scope) (member : String × Json) :
    (further shape member).result source.answer = source.memberFindings shape member := by
  unfold further Registry.memberFindings
  split
  · rfl
  · cases shape.extra with
    | none => rfl
    | some p => exact result_part ..

theorem result_record (scope : Scope) (r : RecordDef) (members : Entries Json) :
    (record scope r members).result source.answer = source.recordFindings scope r members := by
  simp only [record, Plan.result_bind, Plan.result_each, result_field, result_further,
    Plan.result_pure, Registry.recordFindings, List.flatMap_def]
  rfl

theorem result_items (scope : Scope) (left : Nat) (element : TypeExpr) (list : List Json) :
    (items scope element list).result source.answer =
      source.check scope left (.list (some element)) (.array list) := by
  rw [Registry.check_list_array]
  simp only [items, Plan.result_bind, Plan.result_each, result_part, Plan.result_pure]
  exact List.flatMap_def.symm

theorem result_map (scope : Scope) (left : Nat) (key element : Option TypeExpr)
    (members : Entries Json) :
    (map scope key element members).result source.answer =
      source.check scope left (.map key element) (.object members) := by
  rw [Registry.check_map_object, List.flatMap_def]
  simp only [map, Plan.result_bind, Plan.result_each, Plan.result_pure]
  refine congrArg _ (List.map_congr_left fun member _ => ?_)
  unfold entry Registry.entryFindings
  cases keyType? key <;> cases element <;> rfl

theorem result_settle (scope : Scope) (left : Nat) (members : List TypeExpr)
    (attempts : List (TypeExpr × List Finding)) (value : Json) :
    (settle scope left members attempts value).result source.answer =
      source.settleUnion left scope members attempts value := by
  simp only [settle, Registry.settleUnion, Plan.result_bind, Plan.result_call, Registry.answer]
  cases source.literalChoices left scope members with
  | some choices => rfl
  | none =>
    simp only [Plan.result_bind, Plan.result_keep, Plan.result_call, Registry.answer]
    split
    · rfl
    · simp only [Plan.result_bind, Plan.result_keep, Plan.result_call, Registry.answer]
      rfl

theorem result_attempt (scope : Scope) (left : Nat) (value : Json) (m : TypeExpr) :
    (attempt scope left value m).result source.answer =
      if (source.check scope (left - 1) m value).isEmpty then none
      else some (m, source.check scope (left - 1) m value) := rfl

theorem result_union (scope : Scope) (left : Nat) (members : List TypeExpr) (value : Json) :
    (union scope left members value).result source.answer =
      source.check scope left (.union members) value := by
  rw [Registry.check, attemptAll_eq_mapM]
  simp only [union, Plan.result_bind, Plan.result_allOf, result_attempt]
  generalize List.mapM (m := Option) _ members = attempts
  cases attempts with
  | none => rfl
  | some attempts => exact result_settle ..

/-- What a parameter or `self` stands for is followed as the functions that run do. -/
theorem result_follow {α : Type} (meaning : Option ClosedType) (unbound : α)
    (next : TypeExpr → CheckPlan Scope α) :
    (follow (meaning.map (·.1)) unbound next).result source.answer =
      match meaning with
      | some bound => (next bound.1).result source.answer
      | none => unbound := by
  cases meaning <;> rfl

theorem result_check (scope : Scope) (left : Nat) (t : TypeExpr) (value : Json) :
    (check source scope left t value).result source.answer = source.check scope left t value := by
  cases t with
  | union members => exact result_union ..
  | self =>
    rw [Registry.check]
    exact result_follow ..
  | var name =>
    rw [Registry.check]
    exact result_follow ..
  | named key args =>
    cases left with
    | zero =>
      rw [Registry.check]
      rfl
    | succ left =>
      rw [check]
      cases h : source.lookup key with
      | none => rw [Registry.check, h]; rfl
      | some d =>
        cases d with
        | opaqueType => rw [Registry.check, h]; rfl
        | aliased a => rw [Registry.check_aliased h]; rfl
        | record r =>
          cases value with
          | object members => exact (Registry.check_record_object h members).symm
          | _ => rw [Registry.check_record_of_ne h (by simp)]; rfl
  | map key element =>
    cases value with
    | object members => exact result_map ..
    | _ => rw [Registry.check_map_of_ne (by simp)]; rfl
  | tuple elements =>
    cases value with
    | array list =>
      rw [Registry.check_tuple_array, check, List.flatMap_def]
      simp only [tuple, Plan.result_bind, Plan.result_each, result_part, Plan.result_pure]
    | _ => rw [Registry.check_tuple_of_ne (by simp)]; rfl
  | variadic element =>
    rw [Registry.check_variadic_eq_list]
    cases value with
    | array list => exact result_items ..
    | _ => rw [Registry.check_list_of_ne (by simp)]; rfl
  | list element =>
    cases element with
    | none => rw [Registry.check]; rfl
    | some element =>
      cases value with
      | array list => exact result_items ..
      | _ => rw [Registry.check_list_of_ne (by simp)]; rfl
  | _ => rw [Registry.check]; rfl

/-! The questions about the members of a union. -/

theorem result_memberChoices (scope : Scope) (left : Nat) (member : TypeExpr) :
    (memberChoices source scope left member).result source.answer =
      match member.unwrapped with
      | .literal choices => some (choices.map Literal.toJson)
      | .null => some [.null]
      | .union inner => source.literalChoices left scope inner
      | .named key args =>
        match source.lookup key with
        | some (.aliased a) =>
          source.literalChoices left (scope.enter a.typeParams args) [a.target]
        | _ => none
      | _ => none := by
  unfold memberChoices
  cases member.unwrapped with
  | named key args =>
    dsimp only
    cases source.lookup key with
    | none => rfl
    | some d => cases d <;> rfl
  | _ => rfl

theorem result_literalChoices (scope : Scope) (left : Nat) (members : List TypeExpr) :
    (literalChoices source scope members left).result source.answer =
      source.literalChoices left scope members := by
  cases left with
  | zero => rfl
  | succ left =>
    rw [literalChoices, Registry.literalChoices]
    simp only [Plan.result_bind, Plan.result_allOf, Plan.result_pure, result_memberChoices]
    exact Option.map_eq_bind ..

theorem result_kindMatches (scope : Scope) (left : Nat) (t : TypeExpr) (value : Json) :
    (kindMatches source scope t value left).result source.answer =
      source.kindMatches left scope t value := by
  cases left with
  | zero => rfl
  | succ left =>
    rw [kindMatches, Registry.kindMatches]
    cases t.unwrapped with
    | self => exact result_follow ..
    | var name => exact result_follow ..
    | named key args =>
      dsimp only
      cases source.lookup key with
      | none => rfl
      | some d => cases d <;> rfl
    | union members => exact Plan.result_anyOf ..
    | _ => rfl

theorem result_resolveRecord (scope : Scope) (left : Nat) (t : TypeExpr) :
    (resolveRecord source scope t left).result source.answer =
      source.resolveRecord left scope t := by
  cases left with
  | zero => rfl
  | succ left =>
    rw [resolveRecord, Registry.resolveRecord]
    cases t.unwrapped with
    | self =>
      refine (result_follow scope.this _ _).trans ?_
      cases scope.this <;> rfl
    | var name =>
      refine (result_follow (scope.bindings.find? name) _ _).trans ?_
      dsimp only
      cases scope.bindings.find? name <;> rfl
    | named key args =>
      dsimp only
      cases source.lookup key with
      | none => rfl
      | some d => cases d <;> rfl
    | _ => rfl

theorem result_discriminates (scope : Scope) (left : Nat) (t : TypeExpr) (value : Json) :
    (discriminates scope left t value).result source.answer =
      source.discriminates left scope t value := by
  cases value with
  | object members =>
    unfold discriminates Registry.discriminates
    simp only [Plan.result_bind, Plan.result_call, Registry.answer]
    cases source.resolveRecord left scope t with
    | none => rfl
    | some p => simp [Registry.answer]
  | _ => rfl

end CheckPlan

/-- The functions that run satisfy the equations of the recursion. -/
theorem Registry.result_plan (source : Registry) (call : CheckCall Scope) :
    (source.plan call).result source.answer = source.answer call := by
  cases call with
  | check scope left t value => exact CheckPlan.result_check ..
  | record scope r members => exact CheckPlan.result_record ..
  | shape scope r => exact CheckPlan.result_shape ..
  | collect scope r visited => exact CheckPlan.result_collect ..
  | literalChoices scope left members => exact CheckPlan.result_literalChoices ..
  | kindMatches scope left t value => exact CheckPlan.result_kindMatches ..
  | discriminates scope left t value => exact CheckPlan.result_discriminates ..
  | resolveRecord scope left t => exact CheckPlan.result_resolveRecord ..

end SchemaDialogue
