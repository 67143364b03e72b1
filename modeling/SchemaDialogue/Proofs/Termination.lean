import SchemaDialogue.Proofs.CheckEquations

/-!
# The check ends

Each call of the functions that the check consists of lowers a measure:

* a check descends to a part of the value, or uses up an expansion on the same value, or goes from a
  parameter or `self` to a closed type, or to a part of the type;
* a question about a member of a union uses up an expansion;
* the collection of inherited records visits a key that was not visited, whatever it has visited in
  between.

Nothing is assumed about the registry: its aliases may stand for themselves (`trace_selfAliased`),
and its records may inherit from each other.
-/

namespace SchemaDialogue

variable {source : Registry}

/-- What a call may still use up. The first part says which function is called, since the check only
asks for shapes and questions about members of unions, and these only collect inherited records. A
check has what is left of itself (`Registry.Lighter`), and the members of an object are what is left
when no expansions are; a question has the expansions that are left; and a collection has the
described types that were not visited. -/
noncomputable def CheckCall.weight (source : Registry) :
    CheckCall Scope → Nat × Nat × Nat × Nat × Nat
  | check _ left t value => (3, value.size, left, Registry.openness t, sizeOf t)
  | record _ _ members => (3, (Json.object members).size, 0, 0, 0)
  | discriminates _ left _ _ => (2, left, 0, 0, 0)
  | shape _ _ => (1, 0, 0, 0, 0)
  | collect _ _ visited => (0, source.unvisited visited, 0, 0, 0)
  | literalChoices _ left _ => (0, left, 0, 0, 0)
  | kindMatches _ left _ _ => (0, left, 0, 0, 0)
  | resolveRecord _ left _ => (0, left, 0, 0, 0)

namespace Registry

/-- One call may use up less than another: in the first part in which they differ. -/
def Smaller (source : Registry) : CheckCall Scope → CheckCall Scope → Prop :=
  InvImage (Prod.Lex (· < ·) Lighter) (CheckCall.weight source)

/-- There is no endless descent of weights. -/
theorem wellFounded_smaller (source : Registry) : WellFounded source.Smaller :=
  InvImage.wf _ (Prod.lex Nat.lt_wfRel <| Prod.lex Nat.lt_wfRel <| Prod.lex Nat.lt_wfRel <|
    Prod.lex Nat.lt_wfRel Nat.lt_wfRel).wf

/-- A check is smaller than another if less is left of it. -/
theorem smaller_of_lighter {scope scope' : Scope} {left left' : Nat} {t t' : TypeExpr}
    {value value' : Json}
    (h : Lighter (value'.size, left', openness t', sizeOf t')
      (value.size, left, openness t, sizeOf t)) :
    source.Smaller (.check scope' left' t' value') (.check scope left t value) :=
  .right _ h

end Registry

namespace CheckPlan

open Registry

variable {P : CheckCall Scope → Prop}

/-- What a parameter or `self` stands for in a scope is closed. -/
theorem only_follow {α : Type} {meaning : Option ClosedType} {unbound : α}
    {next : TypeExpr → CheckPlan Scope α}
    (h : ∀ bound : TypeExpr, bound.isClosed = true → (next bound).Only P) :
    (follow (meaning.map (·.1)) unbound next).Only P := by
  cases meaning with
  | none => exact Plan.only_pure _
  | some bound => exact h bound.1 bound.2

theorem only_part {name : String} {scope : Scope} {t : TypeExpr} {item : Json}
    (h : P (.check scope expansionLimit t item)) : (part name scope t item).Only P :=
  (Plan.only_call.2 h).bind fun _ => Plan.only_pure _

/-- Each record is collected with a key visited that was not visited before, whatever the
collections for the bases before it have visited. -/
theorem only_bases {scope : Scope} {list : List TypeExpr} {visited : List TypeKey}
    (h : ∀ scope r visited', source.unvisited visited' < source.unvisited visited →
      P (.collect scope r visited')) : (bases source scope list visited).Only P := by
  induction list generalizing visited with
  | nil => exact Plan.only_pure _
  | cons base rest ih =>
    rcases source.leads_cases visited base with ⟨key, args, r, leads⟩ | idle
    · rw [bases_of_leads leads]
      refine (Plan.only_call.2 (h _ _ _ leads.unvisited_lt)).bind fun first => ?_
      have fewer := unvisited_append_lt first.2 leads.unvisited_lt
      refine (ih fun scope r visited' lt => h scope r visited' (Nat.lt_trans lt fewer)).bind ?_
      exact fun others => Plan.only_pure _
    · rw [bases_of_idle idle]
      exact ih h

theorem only_collect (source : Registry) (scope : Scope) (r : RecordDef) (visited : List TypeKey) :
    (collect source scope r visited).Only (source.Smaller · (.collect scope r visited)) :=
  (only_bases fun _ _ _ lt => .right _ (.left _ _ lt)).bind fun _ => Plan.only_pure _

theorem only_field {members : Entries Json} {f : ShapeField Scope}
    (h : ∀ item : Json, item.size < (Json.object members).size →
      P (.check f.scope expansionLimit f.type item)) :
    (field members f).Only P := by
  unfold field
  split
  · exact only_part (h _ (Json.size_lt_of_find? ‹_›))
  · exact Plan.only_pure _

theorem only_further {shape : Shape Scope} {member : String × Json}
    (h : ∀ scope t, P (.check scope expansionLimit t member.2)) :
    (further shape member).Only P := by
  unfold further
  split
  · exact Plan.only_pure _
  · split
    · exact only_part (h _ _)
    · exact Plan.only_pure _

theorem only_record (source : Registry) (scope : Scope) (r : RecordDef) (members : Entries Json) :
    (record scope r members).Only (source.Smaller · (.record scope r members)) := by
  have part (inner : Scope) (t : TypeExpr) (item : Json)
      (h : item.size < (Json.object members).size) :
      source.Smaller (.check inner expansionLimit t item) (.record scope r members) :=
    .right _ (.left _ _ h)
  refine (Plan.only_call.2 (.left _ _ (by decide))).bind fun shape => ?_
  refine (Plan.only_each fun f _ => only_field fun item => part _ _ item).bind fun ofFields => ?_
  refine (Plan.only_each fun member mem => ?_).bind fun ofFurther => Plan.only_pure _
  exact only_further fun inner t => part inner t _ (Json.size_lt_of_mem_object mem)

theorem only_items {scope : Scope} {element : TypeExpr} {list : List Json}
    (h : ∀ item ∈ list, P (.check scope expansionLimit element item)) :
    (items scope element list).Only P := by
  refine (Plan.only_each fun p hp => ?_).bind fun found => Plan.only_pure _
  exact only_part (h p.1 (List.fst_mem_of_mem_zipIdx hp))

theorem only_tuple {scope : Scope} {elements : List TypeExpr} {list : List Json}
    (h : ∀ element, ∀ item ∈ list, P (.check scope expansionLimit element item)) :
    (tuple scope elements list).Only P := by
  refine (Plan.only_each fun p hp => ?_).bind fun found => Plan.only_pure _
  exact only_part (h _ _ (List.of_mem_zip (List.fst_mem_of_mem_zipIdx hp)).2)

theorem only_optional {scope : Scope} {t : Option TypeExpr} {item : Json}
    (h : ∀ t, P (.check scope expansionLimit t item)) : (optional scope t item).Only P := by
  cases t with
  | some t => exact Plan.only_call.2 (h t)
  | none => exact Plan.only_pure _

theorem only_map {scope : Scope} {key element : Option TypeExpr} {members : Entries Json}
    (h : ∀ t, ∀ item : Json, item.size < (Json.object members).size →
      P (.check scope expansionLimit t item)) :
    (map scope key element members).Only P := by
  refine (Plan.only_each fun member hmember => ?_).bind fun found => Plan.only_pure _
  refine (only_optional fun t => h t _ (Json.key_size_lt_of_mem_object hmember)).bind ?_
  intro ofKey
  refine (only_optional fun t => h t _ (Json.size_lt_of_mem_object hmember)).bind ?_
  intro ofItem
  exact Plan.only_pure _

theorem only_settle {scope : Scope} {left : Nat} {members : List TypeExpr}
    {attempts : List (TypeExpr × List Finding)} {value : Json}
    (hchoices : P (.literalChoices scope left members))
    (hkind : ∀ t, P (.kindMatches scope left t value))
    (hmeant : ∀ t, P (.discriminates scope left t value)) :
    (settle scope left members attempts value).Only P := by
  refine (Plan.only_call.2 hchoices).bind fun choices => ?_
  cases choices with
  | some choices => exact Plan.only_pure _
  | none =>
    refine (Plan.only_keep fun p _ => Plan.only_call.2 (hkind p.1)).bind fun ofKind => ?_
    dsimp only
    split
    · exact Plan.only_pure _
    · refine Plan.Only.bind (Plan.only_keep fun p _ => ?_) fun meant => Plan.only_pure _
      exact Plan.only_call.2 (hmeant p.1)

theorem only_check (source : Registry) (scope : Scope) (left : Nat) (t : TypeExpr) (value : Json) :
    (check source scope left t value).Only (source.Smaller · (.check scope left t value)) := by
  have part (t' : TypeExpr) (item : Json) (h : item.size < value.size) :
      source.Smaller (.check scope expansionLimit t' item) (.check scope left t value) :=
    smaller_of_lighter (lighter_of_size h)
  cases t with
  | required inner =>
    exact Plan.only_call.2 (smaller_of_lighter (lighter_of_component (Nat.le_refl _) .required))
  | notRequired inner =>
    exact Plan.only_call.2 (smaller_of_lighter (lighter_of_component (Nat.le_refl _) .notRequired))
  | documented doc inner =>
    exact Plan.only_call.2 (smaller_of_lighter (lighter_of_component (Nat.le_refl _) .documented))
  | self =>
    refine only_follow fun this closed => Plan.only_call.2 ?_
    exact smaller_of_lighter (lighter_of_closed (Nat.sub_le _ _) closed rfl)
  | var name =>
    refine only_follow fun bound closed => ?_
    exact Plan.only_call.2 (smaller_of_lighter (lighter_of_closed (Nat.sub_le _ _) closed rfl))
  | union members =>
    refine Plan.Only.bind (Plan.only_allOf fun m mem => ?_) fun attempts => ?_
    · refine (Plan.only_call.2 ?_).bind fun found => Plan.only_pure _
      exact smaller_of_lighter (lighter_of_component (Nat.sub_le _ _) (.union mem))
    · cases attempts with
      | none => exact Plan.only_pure _
      | some attempts =>
        exact only_settle (.left _ _ (by decide)) (fun _ => .left _ _ (by decide))
          fun _ => .left _ _ (by decide)
  | named key args =>
    cases left with
    | zero => exact Plan.only_pure _
    | succ left =>
      rw [check]
      cases source.lookup key with
      | none => exact Plan.only_pure _
      | some d =>
        cases d with
        | opaqueType => exact Plan.only_pure _
        | aliased a =>
          exact Plan.only_call.2 (smaller_of_lighter (lighter_of_expansion (Nat.lt_succ_self _)))
        | record r =>
          cases value with
          | object members =>
            -- the members are left to do, but no expansions of this object
            exact Plan.only_call.2 (.right _ (.right _ (.left _ _ (Nat.zero_lt_succ _))))
          | _ => exact Plan.only_pure _
  | list element =>
    cases element with
    | none => exact Plan.only_pure _
    | some element =>
      cases value with
      | array list => exact only_items fun item mem => part _ _ (Json.size_lt_of_mem_array mem)
      | _ => exact Plan.only_pure _
  | variadic element =>
    cases value with
    | array list => exact only_items fun item mem => part _ _ (Json.size_lt_of_mem_array mem)
    | _ => exact Plan.only_pure _
  | tuple elements =>
    cases value with
    | array list => exact only_tuple fun t item mem => part _ _ (Json.size_lt_of_mem_array mem)
    | _ => exact Plan.only_pure _
  | map key element =>
    cases value with
    | object members => exact only_map fun t item => part _ item
    | _ => exact Plan.only_pure _
  | _ => exact Plan.only_pure _

theorem only_literalChoices (source : Registry) (scope : Scope) (left : Nat)
    (members : List TypeExpr) :
    (literalChoices source scope members left).Only
      (source.Smaller · (.literalChoices scope left members)) := by
  cases left with
  | zero => exact Plan.only_pure _
  | succ left =>
    refine (Plan.only_allOf fun member _ => ?_).bind fun choices => Plan.only_pure _
    unfold memberChoices
    split
    · exact Plan.only_pure _
    · exact Plan.only_pure _
    · exact Plan.only_call.2 (.right _ (.left _ _ (Nat.lt_succ_self _)))
    · split
      · exact Plan.only_call.2 (.right _ (.left _ _ (Nat.lt_succ_self _)))
      · exact Plan.only_pure _
    · exact Plan.only_pure _

theorem only_kindMatches (source : Registry) (scope : Scope) (left : Nat) (t : TypeExpr)
    (value : Json) :
    (kindMatches source scope t value left).Only
      (source.Smaller · (.kindMatches scope left t value)) := by
  cases left with
  | zero => exact Plan.only_pure _
  | succ left =>
    have expands (scope' : Scope) (t' : TypeExpr) :
        source.Smaller (.kindMatches scope' left t' value)
          (.kindMatches scope (left + 1) t value) :=
      .right _ (.left _ _ (Nat.lt_succ_self _))
    rw [kindMatches]
    cases t.unwrapped with
    | self =>
      exact only_follow fun _ _ => Plan.only_call.2 (expands _ _)
    | var name =>
      refine only_follow fun _ _ => ?_
      exact Plan.only_call.2 (expands _ _)
    | named key args =>
      dsimp only
      split
      · exact Plan.only_pure _
      · exact Plan.only_call.2 (expands _ _)
      · exact Plan.only_pure _
    | union members => exact Plan.only_anyOf fun m _ => Plan.only_call.2 (expands _ _)
    | _ => exact Plan.only_pure _

theorem only_resolveRecord (source : Registry) (scope : Scope) (left : Nat) (t : TypeExpr) :
    (resolveRecord source scope t left).Only
      (source.Smaller · (.resolveRecord scope left t)) := by
  cases left with
  | zero => exact Plan.only_pure _
  | succ left =>
    have expands (scope' : Scope) (t' : TypeExpr) :
        source.Smaller (.resolveRecord scope' left t') (.resolveRecord scope (left + 1) t) :=
      .right _ (.left _ _ (Nat.lt_succ_self _))
    rw [resolveRecord]
    cases t.unwrapped with
    | self =>
      exact only_follow fun _ _ => Plan.only_call.2 (expands _ _)
    | var name =>
      refine only_follow fun _ _ => ?_
      exact Plan.only_call.2 (expands _ _)
    | named key args =>
      dsimp only
      split
      · exact Plan.only_pure _
      · exact Plan.only_call.2 (expands _ _)
      · exact Plan.only_pure _
    | _ => exact Plan.only_pure _

theorem only_discriminates (source : Registry) (scope : Scope) (left : Nat) (t : TypeExpr)
    (value : Json) :
    (discriminates scope left t value).Only
      (source.Smaller · (.discriminates scope left t value)) := by
  cases value with
  | object members =>
    refine (Plan.only_call.2 (.left _ _ (by decide))).bind fun resolved => ?_
    cases resolved with
    | none => exact Plan.only_pure _
    | some p =>
      exact (Plan.only_call.2 (.left _ _ (by decide))).bind fun shape => Plan.only_pure _
  | _ => exact Plan.only_pure _

end CheckPlan

namespace Registry

/-- Whatever the answers to other calls are, a call only makes smaller ones. -/
theorem only_plan (source : Registry) (call : CheckCall Scope) :
    (source.plan call).Only (source.Smaller · call) := by
  cases call with
  | check scope left t value => exact CheckPlan.only_check ..
  | record scope r members => exact CheckPlan.only_record ..
  | shape scope r =>
    exact (Plan.only_call.2 (.left _ _ (by decide))).bind fun _ => Plan.only_pure _
  | collect scope r visited => exact CheckPlan.only_collect ..
  | literalChoices scope left members => exact CheckPlan.only_literalChoices ..
  | kindMatches scope left t value => exact CheckPlan.only_kindMatches ..
  | discriminates scope left t value => exact CheckPlan.only_discriminates ..
  | resolveRecord scope left t => exact CheckPlan.only_resolveRecord ..

/-- **The check ends, for every registry, type and value.** Each call of the functions that it
consists of only makes calls of smaller weight, whatever the answers to them are, and there is no
endless descent of weights. So calls nested to some depth suffice for each call, without any bound
given beforehand, and the answer is that of the function that runs. -/
theorem check_terminates (source : Registry) :
    WellFounded source.Smaller ∧
    (∀ call, (source.plan call).Only (source.Smaller · call)) ∧
    (∀ call, (source.plan call).result source.answer = source.answer call) ∧
    ∀ call, ∃ depth, Plan.nested source.plan depth call = some (source.answer call) :=
  ⟨source.wellFounded_smaller, source.only_plan, source.result_plan,
    Plan.exists_nested source.wellFounded_smaller source.only_plan source.result_plan⟩

/-! ## An alias that stands for itself -/

section

variable {key : TypeKey} {a : AliasDef} {next : List TypeExpr}

/-- With expansions left, the check of a reference to an alias is one call. -/
theorem plan_aliased (described : source.lookup key = some (.aliased a)) (scope : Scope)
    (left : Nat) (args : List TypeExpr) (value : Json) :
    source.plan (.check scope (left + 1) (.named key args) value) =
      CheckPlan.ask (.check (scope.enter a.typeParams args) left a.target value) := by
  rw [plan, CheckPlan.check, described]
  rfl

/-- An alias that stands for itself, perhaps with other arguments each time, is called once for each
expansion that is left, and once more. -/
theorem trace_selfAliased (described : source.lookup key = some (.aliased a))
    (loop : a.target = .named key next) (scope : Scope) (left : Nat) (args : List TypeExpr)
    (value : Json) {depth : Nat} (deep : left ≤ depth) :
    (Plan.trace source.plan depth (.check scope left (.named key args) value)).length = left + 1 ∧
    ∀ call ∈ Plan.trace source.plan depth (.check scope left (.named key args) value),
      ∃ scope' left' args', left' ≤ left ∧ call = .check scope' left' (.named key args') value := by
  induction left generalizing scope args depth with
  | zero =>
    have alone : Plan.trace source.plan depth (.check scope 0 (.named key args) value) =
        [.check scope 0 (.named key args) value] := by
      cases depth <;> rfl
    rw [alone]
    refine ⟨rfl, fun call mem => ⟨scope, 0, args, Nat.le_refl _, List.mem_singleton.mp mem⟩⟩
  | succ left ih =>
    cases depth with
    | zero => cases deep
    | succ depth =>
      obtain ⟨length, calls⟩ :=
        ih (scope.enter a.typeParams args) next (Nat.le_of_succ_le_succ deep)
      rw [Plan.trace, plan_aliased described, loop, Plan.callsWithin_call, List.flatMap_singleton]
      refine ⟨congrArg (· + 1) length, fun call mem => ?_⟩
      rcases List.mem_cons.mp mem with rfl | mem
      · exact ⟨scope, left + 1, args, Nat.le_refl _, rfl⟩
      · obtain ⟨scope', left', args', hle, same⟩ := calls call mem
        exact ⟨scope', left', args', Nat.le_succ_of_le hle, same⟩

/-- It comes to an end with one finding about the value. -/
theorem check_selfAliased (described : source.lookup key = some (.aliased a))
    (loop : a.target = .named key next) (scope : Scope) (left : Nat) (args : List TypeExpr)
    (value : Json) :
    source.check scope left (.named key args) value = [.here value (.unresolved key)] := by
  induction left generalizing scope args with
  | zero => rw [check]
  | succ left ih =>
    rw [check_aliased described, loop]
    exact ih (scope.enter a.typeParams args) next

end

end Registry

end SchemaDialogue
