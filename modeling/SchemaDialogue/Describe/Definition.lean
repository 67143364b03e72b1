import SchemaDialogue.Describe.TypeExpr

/-!
# Definitions of types

A described type is a record with fields and bases, an alias for a type expression, or an opaque
type of which only the name is known.
-/

namespace SchemaDialogue

/-- A field of a record. -/
structure FieldDef where
  name : String
  type : TypeExpr
  /-- May the field be left out? A wrapper of the type overrides it. -/
  optional : Bool := false
  doc : Option String := none

structure RecordDef where
  name : String
  doc : Option String := none
  typeParams : List String := []
  bases : List TypeExpr := []
  fields : List FieldDef := []
  /-- The type of members that are no field; without it the record is closed. -/
  extra : Option TypeExpr := none

structure AliasDef where
  name : String
  doc : Option String := none
  typeParams : List String := []
  target : TypeExpr

inductive TypeDef where
  | record (r : RecordDef)
  | aliased (a : AliasDef)
  | opaqueType (name : String)

namespace TypeDef

/-- The name a definition is written under. -/
def name : TypeDef → String
  | record r => r.name
  | aliased a => a.name
  | opaqueType n => n

def typeParams : TypeDef → List String
  | record r => r.typeParams
  | aliased a => a.typeParams
  | opaqueType _ => []

end TypeDef

namespace FieldDef

/-- The optionality that the wrappers of a type expression give to a field, the outermost one first;
`byDefault` where there is none. -/
def optionality (byDefault : Bool) : TypeExpr → Bool
  | .required _ => false
  | .notRequired _ => true
  | .documented _ inner => optionality byDefault inner
  | _ => byDefault

/-- May the field be left out? -/
def isOptional (f : FieldDef) : Bool := optionality f.optional f.type

end FieldDef

end SchemaDialogue
