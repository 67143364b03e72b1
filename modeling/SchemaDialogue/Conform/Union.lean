import SchemaDialogue.Conform.Finding
import SchemaDialogue.Conform.Shape

/-!
# Findings about a union

When no member of a union accepts a value, one answer is given. If the union only lists literals, it
names all of them. Otherwise it is the findings of the one member that the value was meant for, if
there is one: the only member that takes values of this kind, or the only record whose literal
fields the value agrees with.

Every step from a reference, a parameter, `self` or a union to what it stands for uses up one
expansion, so that types that only stand for themselves come to an end.
-/

namespace SchemaDialogue

/-- The expansions that are allowed before the data is descended into. -/
def expansionLimit : Nat := 64

namespace Registry

/-- All values that a union of literals, `null` and aliases of those accepts; nothing for a union
with any other member, or when the expansions do not suffice. -/
def literalChoices (source : Registry) : Nat → Scope → List TypeExpr → Option (List Json)
  | 0, _, _ => none
  | left + 1, scope, members => do
    let choices ← members.mapM fun member =>
      match member.unwrapped with
      | .literal choices => some (choices.map Literal.toJson)
      | .null => some [.null]
      | .union inner => literalChoices source left scope inner
      | .named key args =>
        match source.lookup key with
        | some (.aliased a) =>
          literalChoices source left (scope.enter a.typeParams args) [a.target]
        | _ => none
      | _ => none
    pure choices.flatten

/-- Can the type accept a value of this kind at all? -/
def kindMatches (source : Registry) : Nat → Scope → TypeExpr → Json → Bool
  | 0, _, _, _ => false
  | left + 1, scope, t, value =>
    match t.unwrapped with
    | .string => Kind.string.admits value
    | .number => Kind.number.admits value
    -- A double is no integer, but the findings of an integer explain it.
    | .integer => Kind.number.admits value
    | .boolean => Kind.boolean.admits value
    | .null => value.isNull
    | .never => false
    | .self =>
      match scope.this with
      | some this => kindMatches source left scope this.1 value
      | none => true
    | .var name =>
      match scope.bindings.find? name with
      | some bound => kindMatches source left scope bound.1 value
      | none => true
    | .named key args =>
      match source.lookup key with
      | none => true
      | some (.aliased a) => kindMatches source left (scope.enter a.typeParams args) a.target value
      | some _ => Kind.object.admits value
    | .list _ => Kind.array.admits value
    | .variadic _ => Kind.array.admits value
    | .tuple _ => Kind.array.admits value
    | .map _ _ => Kind.object.admits value
    | .union members => members.any fun m => kindMatches source left scope m value
    | .literal choices => choices.any (·.sameKind value)
    | _ => true

/-- The record that a type stands for, and the scope inside it. -/
def resolveRecord (source : Registry) : Nat → Scope → TypeExpr → Option (RecordDef × Scope)
  | 0, _, _ => none
  | left + 1, scope, t =>
    match t.unwrapped with
    | .named key args =>
      match source.lookup key with
      | some (.record r) => some (r, scope.enterRecord key r.typeParams args)
      | some (.aliased a) => resolveRecord source left (scope.enter a.typeParams args) a.target
      | _ => none
    | .self => scope.this.bind fun this => resolveRecord source left scope this.1
    | .var name =>
      (scope.bindings.find? name).bind fun bound => resolveRecord source left scope bound.1
    | _ => none

end Registry

/-- The choices of a field whose type is a literal. -/
def ShapeField.choices? {σ : Type} (f : ShapeField σ) : Option (List Literal) :=
  match f.type.unwrapped with
  | .literal choices => some choices
  | _ => none

/-- Does an object have this field with one of these values? -/
def ShapeField.agrees {σ : Type} (f : ShapeField σ) (members : Entries Json)
    (choices : List Literal) : Bool :=
  match members.find? f.name with
  | some item => choices.any (·.admits item)
  | none => false

/-- Does an object agree with all literal fields of a shape, of which there is at least one? -/
def Shape.discriminates {σ : Type} (s : Shape σ) (members : Entries Json) : Bool :=
  let literals := s.fields.filterMap fun f => f.choices?.map (f, ·)
  !literals.isEmpty && literals.all fun p => p.1.agrees members p.2

namespace Registry

/-- Is the value meant for this record, going by its literal fields? -/
def discriminates (source : Registry) (left : Nat) (scope : Scope) (t : TypeExpr) (value : Json) :
    Bool :=
  match value, source.resolveRecord left scope t with
  | .object members, some (r, inner) => (source.shape inner r).discriminates members
  | _, _ => false

/-- The findings about a value that no member of a union accepts, from those of each member. -/
def settleUnion (source : Registry) (left : Nat) (scope : Scope) (members : List TypeExpr)
    (attempts : List (TypeExpr × List Finding)) (value : Json) : List Finding :=
  match source.literalChoices left scope members with
  | some choices => [.here value (.notAmong choices)]
  | none =>
    let ofKind := attempts.filter fun p => source.kindMatches left scope p.1 value
    let meant :=
      -- Literal fields decide only between members of the same kind.
      if ofKind.length = 1 then ofKind
      else ofKind.filter fun p => source.discriminates left scope p.1 value
    match meant with
    | [(_, findings)] => findings
    | _ => [.here value .noMember]

end Registry

end SchemaDialogue
