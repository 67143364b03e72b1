import SchemaDialogue.Proofs.CheckEquations
import SchemaDialogue.Proofs.Simulation

/-!
# Checks with other bindings

The plans of the check do not look at what binds type parameters and `self`: they ask what these
stand for, and go into definitions. So a map that keeps both (`Binding.Kept`) turns each call into
one that does the same (`Registry.seen_plan`): it makes the same calls, turned likewise, and gives
the same findings.
-/

namespace SchemaDialogue

variable {σ τ : Type}

/-! ## What becomes of calls and answers -/

namespace ShapeField

/-- The field with another scope. -/
def map (f : σ → τ) (field : ShapeField σ) : ShapeField τ :=
  ⟨field.name, field.type, field.optional, f field.scope⟩

theorem firstOfName_map (f : σ → τ) (fields : List (ShapeField σ)) :
    firstOfName (fields.map (map f)) = (firstOfName fields).map (map f) := by
  induction fields with
  | nil => rfl
  | cons field rest ih =>
    rw [List.map_cons, firstOfName, ih, firstOfName, List.map_cons, List.filter_map]
    rfl

end ShapeField

namespace Shape

/-- The shape with other scopes. -/
def map (f : σ → τ) (s : Shape σ) : Shape τ :=
  ⟨s.fields.map (.map f), s.extra.map (Prod.map id f)⟩

theorem ofLineage_map (f : σ → τ) (lineage : List (RecordDef × σ)) :
    ofLineage (lineage.map (Prod.map id f)) = (ofLineage lineage).map f := by
  have fields : (lineage.map (Prod.map id f)).flatMap
      (fun p => p.1.fields.map (ShapeField.ofField p.2)) =
      (lineage.flatMap fun p => p.1.fields.map (ShapeField.ofField p.2)).map (.map f) := by
    simp only [List.flatMap_map, List.map_flatMap, List.map_map]
    rfl
  have extra : (lineage.map (Prod.map id f)).findSome? (fun p => p.1.extra.map (·, p.2)) =
      (lineage.findSome? fun p => p.1.extra.map (·, p.2)).map (Prod.map id f) := by
    rw [List.findSome?_map, List.map_findSome?]
    refine congrArg (List.findSome? · lineage) (funext fun p => ?_)
    rw [Function.comp, Function.comp, Option.map_map]
    rfl
  rw [ofLineage, fields, extra, ShapeField.firstOfName_map]
  rfl

variable (f : σ → τ) (s : Shape σ)

/-- The names of the fields do not depend on what is bound. -/
theorem hasField_map (name : String) : (s.map f).hasField name = s.hasField name := by
  simp only [hasField, map, List.any_map]
  rfl

/-- Neither do the literal fields. -/
theorem discriminates_map (members : Entries Json) :
    (s.map f).discriminates members = s.discriminates members := by
  have literals : (s.map f).fields.filterMap (fun field => field.choices?.map (field, ·)) =
      (s.fields.filterMap fun field => field.choices?.map (field, ·)).map
        (Prod.map (.map f) id) := by
    simp only [map, List.filterMap_map, List.map_filterMap]
    refine congrArg (List.filterMap · s.fields) (funext fun field => ?_)
    rw [Option.map_map]
    rfl
  simp only [discriminates, literals, List.isEmpty_map, List.all_map]
  rfl

end Shape

namespace CheckCall

/-- The call with another scope. -/
def map (f : σ → τ) : CheckCall σ → CheckCall τ
  | check scope left t value => check (f scope) left t value
  | record scope r members => record (f scope) r members
  | shape scope r => shape (f scope) r
  | collect scope r visited => collect (f scope) r visited
  | literalChoices scope left members => literalChoices (f scope) left members
  | kindMatches scope left t value => kindMatches (f scope) left t value
  | discriminates scope left t value => discriminates (f scope) left t value
  | resolveRecord scope left t => resolveRecord (f scope) left t

/-- The answer with other scopes in it. -/
def mapAnswer (f : σ → τ) : (call : CheckCall σ) → call.Answer → (call.map f).Answer
  | check .. => id
  | record .. => id
  | shape .. => Shape.map f
  | collect .. => Prod.map (List.map (Prod.map id f)) id
  | literalChoices .. => id
  | kindMatches .. => id
  | discriminates .. => id
  | resolveRecord .. => Option.map (Prod.map id f)

theorem scope_map (f : σ → τ) (call : CheckCall σ) : (call.map f).scope = f call.scope := by
  cases call <;> rfl

/-- Calls and answers with other scopes. -/
def view (f : σ → τ) : Plan.View (@Answer σ) (@Answer τ) := ⟨map f, mapAnswer f⟩

end CheckCall

/-- Parameters and `self` stand for the same in the image, inside of definitions as well. -/
structure Binding.Kept [Binding σ] [Binding τ] (f : σ → τ) : Prop where
  standsFor : ∀ scope t, Binding.standsFor (f scope) t = Binding.standsFor scope t
  enter : ∀ scope params args,
    Binding.enter (f scope) params args = f (Binding.enter scope params args)
  enterRecord : ∀ scope key params args,
    Binding.enterRecord (f scope) key params args = f (Binding.enterRecord scope key params args)

/-! ## What becomes of plans -/

namespace CheckPlan

/-- The plans make the same calls, with other scopes, and have the same result. -/
abbrev SameAs (f : σ → τ) {α : Type} (p : CheckPlan σ α) (p' : CheckPlan τ α) : Prop :=
  Plan.SeenAs (CheckCall.view f) id p p'

variable {f : σ → τ} {source : Registry}

theorem seen_ask (call : CheckCall σ) :
    Plan.SeenAs (CheckCall.view f) (call.mapAnswer f) (ask call) (ask (call.map f)) :=
  .call call

theorem seen_part (name : String) (scope : σ) (t : TypeExpr) (item : Json) :
    SameAs f (part name scope t item) (part name (f scope) t item) :=
  (seen_ask (.check scope expansionLimit t item)).bind fun _ => .done _

/-! ### Records -/

theorem seen_shape (scope : σ) (r : RecordDef) :
    Plan.SeenAs (CheckCall.view f) (Shape.map f) (shape scope r) (shape (f scope) r) := by
  refine (seen_ask (.collect scope r [])).bind fun lineage => ?_
  exact .pure (Shape.ofLineage_map f lineage.1).symm

theorem seen_field (members : Entries Json) (field : ShapeField σ) :
    SameAs f (CheckPlan.field members field) (CheckPlan.field members (field.map f)) := by
  unfold CheckPlan.field
  simp only [ShapeField.map]
  cases Entries.find? members field.name with
  | none => exact .done _
  | some item => exact seen_part ..

theorem seen_further (s : Shape σ) (member : String × Json) :
    SameAs f (further s member) (further (s.map f) member) := by
  unfold further
  rw [Shape.hasField_map]
  split
  · exact .done []
  · obtain ⟨fields, extra⟩ := s
    cases extra with
    | none => exact .done _
    | some p => exact seen_part ..

theorem seen_record (scope : σ) (r : RecordDef) (members : Entries Json) :
    SameAs f (record scope r members) (record (f scope) r members) := by
  refine (seen_ask (.shape scope r)).bind fun s => ?_
  change SameAs f _ (do
    let ofFields ← Plan.each (field members) (s.fields.map (.map f))
    let ofFurther ← Plan.each (further (s.map f)) members
    pure (ofFields.flatten ++ ofFurther.flatten))
  rw [Plan.each_map]
  refine (Plan.SeenAs.each (seen_field members)).bind fun ofFields => ?_
  exact (Plan.SeenAs.each (seen_further s)).bind fun ofFurther => .done _

/-! ### Lists and maps -/

theorem seen_items (scope : σ) (element : TypeExpr) (list : List Json) :
    SameAs f (items scope element list) (items (f scope) element list) :=
  (Plan.SeenAs.each fun _ => seen_part ..).bind fun _ => .done _

theorem seen_tuple (scope : σ) (elements : List TypeExpr) (list : List Json) :
    SameAs f (tuple scope elements list) (tuple (f scope) elements list) :=
  (Plan.SeenAs.each fun _ => seen_part ..).bind fun _ => .done _

theorem seen_optional (scope : σ) (t : Option TypeExpr) (item : Json) :
    SameAs f (optional scope t item) (optional (f scope) t item) := by
  cases t with
  | none => exact .done []
  | some t => exact seen_ask (.check scope expansionLimit t item)

theorem seen_map (scope : σ) (key element : Option TypeExpr) (members : Entries Json) :
    SameAs f (map scope key element members) (map (f scope) key element members) := by
  refine (Plan.SeenAs.each fun member => ?_).bind fun _ => .done _
  refine (seen_optional scope (keyType? key) (.string member.1)).bind fun ofKey => ?_
  exact (seen_optional scope element member.2).bind fun ofItem => .done _

/-! ### Unions -/

theorem seen_settle (scope : σ) (left : Nat) (members : List TypeExpr)
    (attempts : List (TypeExpr × List Finding)) (value : Json) :
    SameAs f (settle scope left members attempts value)
      (settle (f scope) left members attempts value) := by
  refine (seen_ask (.literalChoices scope left members)).bind fun choices => ?_
  cases choices with
  | some choices => exact .done _
  | none =>
    have kind (p : TypeExpr × List Finding) := seen_ask (f := f) (.kindMatches scope left p.1 value)
    refine (Plan.SeenAs.keep kind).bind fun ofKind => ?_
    dsimp only [id]
    split
    · exact .done _
    · have meant (p : TypeExpr × List Finding) :=
        seen_ask (f := f) (.discriminates scope left p.1 value)
      exact (Plan.SeenAs.keep meant).bind fun meant => .done _

theorem seen_attempt (scope : σ) (left : Nat) (value : Json) (m : TypeExpr) :
    SameAs f (attempt scope left value m) (attempt (f scope) left value m) :=
  (seen_ask (.check scope (left - 1) m value)).bind fun _ => .done _

theorem seen_union (scope : σ) (left : Nat) (members : List TypeExpr) (value : Json) :
    SameAs f (union scope left members value) (union (f scope) left members value) := by
  refine (Plan.SeenAs.allOf (seen_attempt scope left value)).bind fun attempts => ?_
  cases attempts with
  | none => exact .done []
  | some attempts => exact seen_settle ..

theorem seen_discriminates (scope : σ) (left : Nat) (t : TypeExpr) (value : Json) :
    SameAs f (discriminates scope left t value) (discriminates (f scope) left t value) := by
  cases value with
  | object members =>
    refine (seen_ask (.resolveRecord scope left t)).bind fun resolved => ?_
    cases resolved with
    | none => exact .done false
    | some p =>
      refine (seen_ask (.shape p.2 p.1)).bind fun s => ?_
      exact .pure (Shape.discriminates_map f s members).symm
  | _ => exact .done false

/-! ### Definitions that are gone into -/

variable [Binding σ] [Binding τ] (kept : Binding.Kept f)

include kept

/-- What a parameter or `self` stands for is followed in both. -/
theorem seen_follow {α α' : Type} {image : α → α'} {unbound : α}
    {next : TypeExpr → CheckPlan σ α} {next' : TypeExpr → CheckPlan τ α'} (scope : σ)
    (step : TypeExpr)
    (h : ∀ bound, Plan.SeenAs (CheckCall.view f) image (next bound) (next' bound)) :
    Plan.SeenAs (CheckCall.view f) image (follow (Binding.standsFor scope step) unbound next)
      (follow (Binding.standsFor (f scope) step) (image unbound) next') := by
  rw [kept.standsFor]
  cases Binding.standsFor scope step with
  | none => exact .done unbound
  | some bound => exact h bound

theorem seen_bases (scope : σ) (list : List TypeExpr) (visited : List TypeKey) :
    Plan.SeenAs (CheckCall.view f) (Prod.map (List.map (Prod.map id f)) id)
      (bases source scope list visited) (bases source (f scope) list visited) := by
  induction list generalizing visited with
  | nil => exact .done ([], [])
  | cons base rest ih =>
    rcases source.leads_cases visited base with ⟨key, args, r, leads⟩ | idle
    · rw [bases_of_leads leads, bases_of_leads leads, kept.enter]
      refine (seen_ask (.collect _ r (key :: visited))).bind fun first => ?_
      refine (ih _).bind fun others => .pure ?_
      simp only [CheckCall.mapAnswer, Prod.map, List.map_append, id]
    · rw [bases_of_idle idle, bases_of_idle idle]
      exact ih visited

theorem seen_collect (scope : σ) (r : RecordDef) (visited : List TypeKey) :
    Plan.SeenAs (CheckCall.view f) (Prod.map (List.map (Prod.map id f)) id)
      (collect source scope r visited) (collect source (f scope) r visited) :=
  (seen_bases kept scope r.bases visited).bind fun _ => .done _

theorem seen_memberChoices (scope : σ) (left : Nat) (member : TypeExpr) :
    SameAs f (memberChoices source scope left member)
      (memberChoices source (f scope) left member) := by
  unfold memberChoices
  cases member.unwrapped with
  | union inner => exact seen_ask (.literalChoices scope left inner)
  | named key args =>
    dsimp only
    cases source.lookup key with
    | none => exact .done none
    | some d =>
      cases d with
      | aliased a =>
        dsimp only
        rw [kept.enter]
        exact seen_ask (.literalChoices (Binding.enter scope a.typeParams args) left [a.target])
      | _ => exact .done none
  | _ => exact .done _

theorem seen_literalChoices (scope : σ) (members : List TypeExpr) (left : Nat) :
    SameAs f (literalChoices source scope members left)
      (literalChoices source (f scope) members left) := by
  cases left with
  | zero => exact .done none
  | succ left =>
    exact (Plan.SeenAs.allOf (seen_memberChoices kept scope left)).bind fun choices => .done _

theorem seen_kindMatches (scope : σ) (t : TypeExpr) (value : Json) (left : Nat) :
    SameAs f (kindMatches source scope t value left)
      (kindMatches source (f scope) t value left) := by
  cases left with
  | zero => exact .done false
  | succ left =>
    rw [kindMatches, kindMatches]
    cases t.unwrapped with
    | self =>
      exact seen_follow kept scope .self fun this => seen_ask (.kindMatches scope left this value)
    | var name =>
      exact seen_follow kept scope (.var name) fun bound => seen_ask (.kindMatches scope left bound value)
    | named key args =>
      dsimp only
      cases source.lookup key with
      | none => exact .done true
      | some d =>
        cases d with
        | aliased a =>
          dsimp only
          rw [kept.enter]
          exact seen_ask (.kindMatches (Binding.enter scope a.typeParams args) left a.target value)
        | _ => exact .done _
    | union members =>
      exact Plan.SeenAs.anyOf fun m => seen_ask (.kindMatches scope left m value)
    | _ => exact .done _

theorem seen_resolveRecord (scope : σ) (t : TypeExpr) (left : Nat) :
    Plan.SeenAs (CheckCall.view f) (Option.map (Prod.map id f))
      (resolveRecord source scope t left) (resolveRecord source (f scope) t left) := by
  cases left with
  | zero => exact .done none
  | succ left =>
    rw [resolveRecord, resolveRecord]
    cases t.unwrapped with
    | self =>
      exact seen_follow kept scope .self fun this => seen_ask (.resolveRecord scope left this)
    | var name =>
      exact seen_follow kept scope (.var name) fun bound => seen_ask (.resolveRecord scope left bound)
    | named key args =>
      dsimp only
      cases source.lookup key with
      | none => exact .done none
      | some d =>
        cases d with
        | aliased a =>
          dsimp only
          rw [kept.enter]
          exact seen_ask (.resolveRecord (Binding.enter scope a.typeParams args) left a.target)
        | record r =>
          dsimp only
          rw [kept.enterRecord]
          exact .done (some (r, _))
        | opaqueType => exact .done none
    | _ => exact .done none

/-! ### Values -/

theorem seen_named (scope : σ) (left : Nat) (key : TypeKey) (args : List TypeExpr)
    (value : Json) :
    SameAs f (check source scope left (.named key args) value)
      (check source (f scope) left (.named key args) value) := by
  cases left with
  | zero => exact .done _
  | succ left =>
    rw [check, check]
    cases source.lookup key with
    | none => exact .done []
    | some d =>
      cases d with
      | opaqueType => exact .done _
      | aliased a =>
        dsimp only
        rw [kept.enter]
        exact seen_ask (.check (Binding.enter scope a.typeParams args) left a.target value)
      | record r =>
        cases value with
        | object members =>
          dsimp only
          rw [kept.enterRecord]
          exact seen_ask (.record (Binding.enterRecord scope key r.typeParams args) r members)
        | _ => exact .done _

theorem seen_check (scope : σ) (left : Nat) (t : TypeExpr) (value : Json) :
    SameAs f (check source scope left t value) (check source (f scope) left t value) := by
  cases t with
  | required inner => exact seen_ask (.check scope left inner value)
  | notRequired inner => exact seen_ask (.check scope left inner value)
  | documented doc inner => exact seen_ask (.check scope left inner value)
  | self =>
    exact seen_follow kept scope .self fun this => seen_ask (.check scope (left - 1) this value)
  | var name =>
    exact seen_follow kept scope (.var name) fun bound => seen_ask (.check scope (left - 1) bound value)
  | named key args => exact seen_named kept scope left key args value
  | union members => exact seen_union ..
  | list element =>
    cases element with
    | none => exact .done _
    | some element =>
      cases value with
      | array list => exact seen_items ..
      | _ => exact .done _
  | variadic element =>
    cases value with
    | array list => exact seen_items ..
    | _ => exact .done _
  | tuple elements =>
    cases value with
    | array list => exact seen_tuple ..
    | _ => exact .done _
  | map key element =>
    cases value with
    | object members => exact seen_map ..
    | _ => exact .done _
  | _ => exact .done _

end CheckPlan

/-- Each call makes the same calls and has the same answer as the call with other scopes. -/
theorem Registry.seen_plan [Binding σ] [Binding τ] {f : σ → τ} (kept : Binding.Kept f)
    (source : Registry) (call : CheckCall σ) :
    Plan.SeenAs (CheckCall.view f) (call.mapAnswer f) (source.plan call)
      (source.plan (call.map f)) := by
  cases call with
  | check scope left t value => exact CheckPlan.seen_check kept ..
  | record scope r members => exact CheckPlan.seen_record ..
  | shape scope r => exact CheckPlan.seen_shape ..
  | collect scope r visited => exact CheckPlan.seen_collect kept ..
  | literalChoices scope left members => exact CheckPlan.seen_literalChoices kept ..
  | kindMatches scope left t value => exact CheckPlan.seen_kindMatches kept ..
  | discriminates scope left t value => exact CheckPlan.seen_discriminates ..
  | resolveRecord scope left t => exact CheckPlan.seen_resolveRecord kept ..

end SchemaDialogue
