import SchemaDialogue.Describe.Definition

/-!
# Registries of described types

A registry maps keys to definitions in the order of registration. While a definition is being built
its key is reserved, so that a type that mentions itself gets a plain reference and is not described
again.
-/

namespace SchemaDialogue

/-- Definitions under their keys, and the keys whose definitions are being built. -/
structure Registry where
  types : Entries TypeDef := []
  reserved : List TypeKey := []

namespace Registry

def empty : Registry := {}

def lookup (r : Registry) (key : TypeKey) : Option TypeDef := r.types.find? key

def contains (r : Registry) (key : TypeKey) : Bool := (r.lookup key).isSome

def keys (r : Registry) : List TypeKey := r.types.keys

def size (r : Registry) : Nat := r.types.length

/-- Set the definition of a key, which is then no longer reserved. -/
def define (r : Registry) (key : TypeKey) (definition : TypeDef) : Registry :=
  ⟨r.types.insert key definition, r.reserved.filter (· ≠ key)⟩

/-- Insert or replace a definition; gives the reference to it. -/
def insert (key : TypeKey) (definition : TypeDef) : StateM Registry TypeExpr := do
  modify (·.define key definition)
  pure (.reference key)

/-- Register a definition once. A key that is defined or reserved is left as it is; otherwise it
stays reserved while `build` runs. Gives the reference, and what `build` gives beside the
definition if it ran. -/
def registerWith {α : Type} (key : TypeKey) (build : StateM Registry (TypeDef × α)) :
    StateM Registry (TypeExpr × Option α) := do
  let registry ← get
  if registry.contains key || registry.reserved.contains key then pure (.reference key, none)
  else
    -- While the key is reserved, `build` can refer to it without describing it again.
    set { registry with reserved := registry.reserved ++ [key] }
    let (definition, extra) ← build
    let reference ← insert key definition
    pure (reference, some extra)

/-- Register a definition once, keeping nothing but the reference. -/
def register (key : TypeKey) (build : StateM Registry TypeDef) : StateM Registry TypeExpr := do
  let (reference, _) ← registerWith key do
    let definition ← build
    pure (definition, ())
  pure reference

end Registry

end SchemaDialogue
