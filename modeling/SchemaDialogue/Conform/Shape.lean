import SchemaDialogue.Conform.Scope
import SchemaDialogue.Describe.Ancestry

/-!
# Shapes of records

The shape of a record is what an object is held against: its own fields followed by the inherited
ones, the first of each name only, and the first type for further members. Every part keeps the
scope of the record that it comes from; inherited parts still see the derived record as `self`.

What a shape is does not depend on what scopes are, so that it can be stated for anything that its
parts are read in.
-/

namespace SchemaDialogue

variable {σ : Type}

/-- A field of a shape, with the scope of its type. -/
structure ShapeField (σ : Type) where
  name : String
  type : TypeExpr
  optional : Bool
  scope : σ

/-- The fields of a record, own and inherited, and the type of further members if they may occur. -/
structure Shape (σ : Type) where
  fields : List (ShapeField σ)
  extra : Option (TypeExpr × σ)

namespace ShapeField

/-- A field seen from a scope. -/
def ofField (scope : σ) (f : FieldDef) : ShapeField σ := ⟨f.name, f.type, f.isOptional, scope⟩

/-- The first field of each name. -/
def firstOfName : List (ShapeField σ) → List (ShapeField σ)
  | [] => []
  | f :: rest => f :: (firstOfName rest).filter (·.name ≠ f.name)

end ShapeField

namespace Registry

/-- The scope of an inherited record. -/
def inheritScope (heir : Scope) (r : RecordDef) (args : List TypeExpr) : Scope :=
  heir.enter r.typeParams args

/-- The record and all it inherits from, each with its scope. -/
def lineage (source : Registry) (scope : Scope) (r : RecordDef) : List (RecordDef × Scope) :=
  (r, scope) :: source.ancestry inheritScope r scope

def shape (source : Registry) (scope : Scope) (r : RecordDef) : Shape Scope :=
  let lineage := source.lineage scope r
  { fields := ShapeField.firstOfName <| lineage.flatMap fun p => p.1.fields.map (.ofField p.2)
    extra := lineage.findSome? fun p => p.1.extra.map (·, p.2) }

end Registry

namespace Shape

def hasField (s : Shape σ) (name : String) : Bool := s.fields.any (·.name = name)

end Shape

end SchemaDialogue
