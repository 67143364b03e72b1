import SchemaDialogue.Conform.Check
import SchemaDialogue.Proofs.Contexts
import SchemaDialogue.Proofs.Recursion

/-!
# The check as a recursion

The functions that the check consists of are written as one recursion: the plan of each call says
which calls it makes and how its answer comes from theirs. The calls are those of `check`, of the
questions about the members of a union, and of the search for inherited records, each in something
that binds type parameters and `self`.

What binds them may be a scope, which binds closed types by its construction, or a context, of which
nothing is known (`Binding`). It is made anew where a reference is followed: to an alias (by the
check and by each question about a member of a union), to a record, and to a record that another one
inherits from. Lists, tuples, maps and the members of unions are gone into with what is bound
already.
-/

namespace SchemaDialogue

/-- What type parameters and `self` stand for, and what they stand for inside of definitions. -/
class Binding (σ : Type) where
  standsFor : σ → TypeExpr → Option TypeExpr
  enter : σ → List String → List TypeExpr → σ
  enterRecord : σ → TypeKey → List String → List TypeExpr → σ

/-- What a type parameter or `self` is bound to in a scope, if it is bound. -/
def Scope.standsFor (scope : Scope) : TypeExpr → Option TypeExpr
  | .var name => (scope.bindings.find? name).map (·.1)
  | .self => scope.this.map (·.1)
  | _ => none

instance : Binding Scope := ⟨Scope.standsFor, Scope.enter, Scope.enterRecord⟩

instance : Binding Context := ⟨Context.standsFor, Context.enter, Context.enterRecord⟩

/-- A call of one of the functions that the check consists of. -/
inductive CheckCall (σ : Type) where
  | check (scope : σ) (left : Nat) (t : TypeExpr) (value : Json)
  /-- The findings about the members of an object that should be a record. -/
  | record (scope : σ) (r : RecordDef) (members : Entries Json)
  /-- The shape of a record. -/
  | shape (scope : σ) (r : RecordDef)
  /-- A record and those it inherits from that have not been visited. -/
  | collect (scope : σ) (r : RecordDef) (visited : List TypeKey)
  | literalChoices (scope : σ) (left : Nat) (members : List TypeExpr)
  | kindMatches (scope : σ) (left : Nat) (t : TypeExpr) (value : Json)
  | discriminates (scope : σ) (left : Nat) (t : TypeExpr) (value : Json)
  | resolveRecord (scope : σ) (left : Nat) (t : TypeExpr)

variable {σ : Type}

namespace CheckCall

/-- What type parameters and `self` are bound in where a call is made. -/
def scope : CheckCall σ → σ
  | check scope .. => scope
  | record scope .. => scope
  | shape scope .. => scope
  | collect scope .. => scope
  | literalChoices scope .. => scope
  | kindMatches scope .. => scope
  | discriminates scope .. => scope
  | resolveRecord scope .. => scope

/-- What a call gives; a collection also gives the keys that it has visited in addition. -/
abbrev Answer : CheckCall σ → Type
  | check .. => List Finding
  | record .. => List Finding
  | shape .. => Shape σ
  | collect .. => List (RecordDef × σ) × List TypeKey
  | literalChoices .. => Option (List Json)
  | kindMatches .. => Bool
  | discriminates .. => Bool
  | resolveRecord .. => Option (RecordDef × σ)

end CheckCall

/-- A plan that makes calls of the check. -/
abbrev CheckPlan (σ α : Type) := Plan (@CheckCall.Answer σ) α

/-- The shape that a record and those it inherits from give. -/
def Shape.ofLineage (lineage : List (RecordDef × σ)) : Shape σ where
  fields := ShapeField.firstOfName <| lineage.flatMap fun p => p.1.fields.map (.ofField p.2)
  extra := lineage.findSome? fun p => p.1.extra.map (·, p.2)

namespace CheckPlan

open Binding

/-- Make a call. -/
abbrev ask (call : CheckCall σ) : CheckPlan σ call.Answer := Plan.call call

/-- Go on with what a parameter or `self` stands for, if it stands for anything. -/
def follow {α : Type} (meaning : Option TypeExpr) (unbound : α)
    (next : TypeExpr → CheckPlan σ α) : CheckPlan σ α :=
  match meaning with
  | some bound => next bound
  | none => pure unbound

/-- The findings about a part of a value, under its name. -/
def part (name : String) (scope : σ) (t : TypeExpr) (item : Json) :
    CheckPlan σ (List Finding) := do
  let found : List Finding ← ask (.check scope expansionLimit t item)
  pure (found.map (·.within name))

/-! ## Records -/

/-- The records that bases bring, and the keys that are visited for them. -/
def bases [Binding σ] (source : Registry) (scope : σ) :
    List TypeExpr → List TypeKey → CheckPlan σ (List (RecordDef × σ) × List TypeKey)
  | [], _ => pure ([], [])
  | base :: rest, visited =>
    match base.unwrapped with
    | .named key args =>
      if key ∉ visited then
        match source.lookup key with
        | some (.record r) => do
          let first : List (RecordDef × σ) × List TypeKey ←
            ask (.collect (enter scope r.typeParams args) r (key :: visited))
          -- what has been visited for one base stays so for the next ones
          let others ← bases source scope rest (first.2 ++ key :: visited)
          pure (first.1 ++ others.1, others.2 ++ (first.2 ++ [key]))
        | _ => bases source scope rest visited
      else bases source scope rest visited
    | _ => bases source scope rest visited

/-- A record and those it inherits from that have not been visited. -/
def collect [Binding σ] (source : Registry) (scope : σ) (r : RecordDef) (visited : List TypeKey) :
    CheckPlan σ (List (RecordDef × σ) × List TypeKey) := do
  let inherited ← bases source scope r.bases visited
  pure ((r, scope) :: inherited.1, inherited.2)

/-- The shape of a record. -/
def shape (scope : σ) (r : RecordDef) : CheckPlan σ (Shape σ) := do
  let lineage : List (RecordDef × σ) × List TypeKey ← ask (.collect scope r [])
  pure (.ofLineage lineage.1)

/-- The findings about a field of a shape. -/
def field (members : Entries Json) (f : ShapeField σ) : CheckPlan σ (List Finding) :=
  match Entries.find? members f.name with
  | some item => part f.name f.scope f.type item
  | none => pure (if f.optional then [] else [⟨[f.name], .object members, .fieldMissing⟩])

/-- The findings about a member that may be none of the fields of a shape. -/
def further (shape : Shape σ) (member : String × Json) : CheckPlan σ (List Finding) :=
  if shape.hasField member.1 then pure []
  else
    match shape.extra with
    | some (extra, inner) => part member.1 inner extra member.2
    | none => pure [⟨[member.1], member.2, .notPermitted⟩]

/-- The findings about the members of an object that should be a record. -/
def record (scope : σ) (r : RecordDef) (members : Entries Json) :
    CheckPlan σ (List Finding) := do
  let shape : Shape σ ← ask (.shape scope r)
  let ofFields ← Plan.each (field members) shape.fields
  let ofFurther ← Plan.each (further shape) members
  pure (ofFields.flatten ++ ofFurther.flatten)

/-! ## Lists and maps -/

/-- The findings about the items of an array whose items are all of one type. -/
def items (scope : σ) (element : TypeExpr) (list : List Json) : CheckPlan σ (List Finding) := do
  let found ← Plan.each (fun p : Json × Nat => part (toString p.2) scope element p.1) list.zipIdx
  pure found.flatten

/-- The findings about the items of an array that each have a type. -/
def tuple (scope : σ) (elements : List TypeExpr) (list : List Json) :
    CheckPlan σ (List Finding) := do
  let found ← Plan.each (fun p : (TypeExpr × Json) × Nat => part (toString p.2) scope p.1.1 p.1.2)
    (elements.zip list).zipIdx
  pure ((if list.length = elements.length then []
    else [.here (.array list) (.tupleLength elements.length list.length)]) ++ found.flatten)

/-- The findings about a part of a value, if there is a type for it. -/
def optional (scope : σ) (t : Option TypeExpr) (item : Json) : CheckPlan σ (List Finding) :=
  match t with
  | some t => ask (.check scope expansionLimit t item)
  | none => pure []

/-- The findings about a member of a map. -/
def entry (scope : σ) (key element : Option TypeExpr) (member : String × Json) :
    CheckPlan σ (List Finding) := do
  let ofKey ← optional scope (keyType? key) (.string member.1)
  let ofItem ← optional scope element member.2
  pure ((keyKindFindings key member.1 ++ ofKey ++ ofItem).map (·.within member.1))

/-- The findings about the members of an object that should be a map. -/
def map (scope : σ) (key element : Option TypeExpr) (members : Entries Json) :
    CheckPlan σ (List Finding) := do
  let found ← Plan.each (entry scope key element) members
  pure found.flatten

/-! ## Unions -/

/-- The findings about a value that no member of a union accepts, from those of each member. -/
def settle (scope : σ) (left : Nat) (members : List TypeExpr)
    (attempts : List (TypeExpr × List Finding)) (value : Json) : CheckPlan σ (List Finding) := do
  let choices : Option (List Json) ← ask (.literalChoices scope left members)
  match choices with
  | some choices => pure [.here value (.notAmong choices)]
  | none =>
    let ofKind ← Plan.keep (fun p => ask (.kindMatches scope left p.1 value)) attempts
    let meant ←
      if ofKind.length = 1 then pure ofKind
      else Plan.keep (fun p => ask (.discriminates scope left p.1 value)) ofKind
    pure <|
      match meant with
      | [(_, findings)] => findings
      | _ => [.here value .noMember]

/-- A member of a union with the findings about a value, if there are any. -/
def attempt (scope : σ) (left : Nat) (value : Json) (m : TypeExpr) :
    CheckPlan σ (Option (TypeExpr × List Finding)) := do
  let found : List Finding ← ask (.check scope (left - 1) m value)
  pure (if found.isEmpty then none else some (m, found))

/-- The findings about a value that should be of some member of a union. -/
def union (scope : σ) (left : Nat) (members : List TypeExpr) (value : Json) :
    CheckPlan σ (List Finding) := do
  let attempts ← Plan.allOf (attempt scope left value) members
  match attempts with
  | some attempts => settle scope left members attempts value
  | none => pure []

/-- The values that a member of a union accepts, if it is made of literals. -/
def memberChoices [Binding σ] (source : Registry) (scope : σ) (left : Nat) (member : TypeExpr) :
    CheckPlan σ (Option (List Json)) :=
  match member.unwrapped with
  | .literal choices => pure (some (choices.map Literal.toJson))
  | .null => pure (some [.null])
  | .union inner => ask (.literalChoices scope left inner)
  | .named key args =>
    match source.lookup key with
    | some (.aliased a) => ask (.literalChoices (enter scope a.typeParams args) left [a.target])
    | _ => pure none
  | _ => pure none

/-- The values that a union of literals accepts. -/
def literalChoices [Binding σ] (source : Registry) (scope : σ) (members : List TypeExpr) :
    Nat → CheckPlan σ (Option (List Json))
  | 0 => pure none
  | left + 1 => do
    let choices ← Plan.allOf (memberChoices source scope left) members
    pure (choices.map List.flatten)

/-- Can a type accept a value of this kind? -/
def kindMatches [Binding σ] (source : Registry) (scope : σ) (t : TypeExpr) (value : Json) :
    Nat → CheckPlan σ Bool
  | 0 => pure false
  | left + 1 =>
    match t.unwrapped with
    | .string => pure (Kind.string.admits value)
    | .number => pure (Kind.number.admits value)
    | .integer => pure (Kind.number.admits value)
    | .boolean => pure (Kind.boolean.admits value)
    | .null => pure value.isNull
    | .never => pure false
    | .self => follow (standsFor scope .self) true fun this =>
        ask (.kindMatches scope left this value)
    | .var name => follow (standsFor scope (.var name)) true fun bound =>
        ask (.kindMatches scope left bound value)
    | .named key args =>
      match source.lookup key with
      | none => pure true
      | some (.aliased a) =>
        ask (.kindMatches (enter scope a.typeParams args) left a.target value)
      | some _ => pure (Kind.object.admits value)
    | .list _ => pure (Kind.array.admits value)
    | .variadic _ => pure (Kind.array.admits value)
    | .tuple _ => pure (Kind.array.admits value)
    | .map _ _ => pure (Kind.object.admits value)
    | .union members => Plan.anyOf (fun m => ask (.kindMatches scope left m value)) members
    | .literal choices => pure (choices.any (·.sameKind value))
    | _ => pure true

/-- The record that a type stands for. -/
def resolveRecord [Binding σ] (source : Registry) (scope : σ) (t : TypeExpr) :
    Nat → CheckPlan σ (Option (RecordDef × σ))
  | 0 => pure none
  | left + 1 =>
    match t.unwrapped with
    | .named key args =>
      match source.lookup key with
      | some (.record r) => pure (some (r, enterRecord scope key r.typeParams args))
      | some (.aliased a) => ask (.resolveRecord (enter scope a.typeParams args) left a.target)
      | _ => pure none
    | .self => follow (standsFor scope .self) none fun this => ask (.resolveRecord scope left this)
    | .var name => follow (standsFor scope (.var name)) none fun bound =>
        ask (.resolveRecord scope left bound)
    | _ => pure none

/-- Is a value meant for the record that a type stands for? -/
def discriminates (scope : σ) (left : Nat) (t : TypeExpr) (value : Json) : CheckPlan σ Bool :=
  match value with
  | .object members => do
    let resolved : Option (RecordDef × σ) ← ask (.resolveRecord scope left t)
    match resolved with
    | some (r, inner) =>
      let shape : Shape σ ← ask (.shape inner r)
      pure (shape.discriminates members)
    | none => pure false
  | _ => pure false

/-! ## Values -/

/-- The findings about a value. -/
def check [Binding σ] (source : Registry) (scope : σ) (left : Nat) (t : TypeExpr) (value : Json) :
    CheckPlan σ (List Finding) :=
  match t with
  | .required inner => ask (.check scope left inner value)
  | .notRequired inner => ask (.check scope left inner value)
  | .documented _ inner => ask (.check scope left inner value)
  | .any => pure []
  | .string => pure (Finding.unlessKind .string value)
  | .number => pure (Finding.unlessKind .number value)
  | .integer => pure (Finding.unlessKind .integer value)
  | .boolean => pure (Finding.unlessKind .boolean value)
  | .null => pure (if value.isNull then [] else [.here value .notNull])
  | .never => pure [.here value .nothingAllowed]
  | .self => follow (standsFor scope .self) [] fun this => ask (.check scope (left - 1) this value)
  | .var name => follow (standsFor scope (.var name)) [] fun bound =>
      ask (.check scope (left - 1) bound value)
  | .named key args =>
    match left with
    | 0 => pure [.here value (.unresolved key)]
    | left + 1 =>
      match source.lookup key with
      | none => pure []
      | some (.opaqueType _) => pure (Finding.unlessKind .object value)
      | some (.aliased a) => ask (.check (enter scope a.typeParams args) left a.target value)
      | some (.record r) =>
        match value with
        | .object members => ask (.record (enterRecord scope key r.typeParams args) r members)
        | _ => pure [.here value (.wrongKind .object)]
  | .list none => pure (Finding.unlessKind .array value)
  | .list (some element) =>
    match value with
    | .array list => items scope element list
    | _ => pure [.here value (.wrongKind .array)]
  | .variadic element =>
    match value with
    | .array list => items scope element list
    | _ => pure [.here value (.wrongKind .array)]
  | .tuple elements =>
    match value with
    | .array list => tuple scope elements list
    | _ => pure [.here value (.wrongKind .array)]
  | .map key element =>
    match value with
    | .object members => map scope key element members
    | _ => pure [.here value (.wrongKind .object)]
  | .union members => union scope left members value
  | .literal choices =>
    pure (if choices.any (·.admits value) then []
      else [.here value (.notAmong (choices.map Literal.toJson))])

end CheckPlan

namespace Registry

/-- The plan of a call. -/
def plan [Binding σ] (source : Registry) : (call : CheckCall σ) → CheckPlan σ call.Answer
  | .check scope left t value => CheckPlan.check source scope left t value
  | .record scope r members => CheckPlan.record scope r members
  | .shape scope r => CheckPlan.shape scope r
  | .collect scope r visited => CheckPlan.collect source scope r visited
  | .literalChoices scope left members => CheckPlan.literalChoices source scope members left
  | .kindMatches scope left t value => CheckPlan.kindMatches source scope t value left
  | .discriminates scope left t value => CheckPlan.discriminates scope left t value
  | .resolveRecord scope left t => CheckPlan.resolveRecord source scope t left

end Registry

end SchemaDialogue
