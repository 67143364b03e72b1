import SchemaDialogue.Describe.Registry

/-!
# Descriptions of host types

A host type is a scalar, a container of host types, or a type that registers its own definition.
Scalars and containers are described by their structure alone and register nothing.
-/

namespace SchemaDialogue

/-- A type of the host environment. -/
inductive HostType where
  | text
  | character
  | truth
  | real
  | integer
  | anything
  | nothing
  /-- A reference to a value, or a box that holds one. -/
  | pointer (target : HostType)
  | optional (inner : HostType)
  /-- A list, queue, set or slice. -/
  | sequence (item : HostType)
  | mapping (key value : HostType)
  | tuple (parts : List HostType)
  /-- A type that describes itself. -/
  | described (describe : StateM Registry TypeExpr)

namespace HostType

mutual

/-- Describe a type into a registry. -/
def describe : HostType → StateM Registry TypeExpr
  | text => pure .string
  | character => pure .string
  | truth => pure .boolean
  | real => pure .number
  | integer => pure .integer
  | anything => pure .any
  | nothing => pure .null
  | pointer target => target.describe
  | optional inner => do
    let a ← inner.describe
    pure (.nullable a)
  | sequence item => do
    let a ← item.describe
    pure (.list (some a))
  | mapping key value => do
    let k ← key.describe
    let v ← value.describe
    pure (.map (some k) (some v))
  | tuple parts => do
    let as ← describeAll parts
    pure (.tuple as)
  | described action => action

def describeAll : List HostType → StateM Registry (List TypeExpr)
  | [] => pure []
  | t :: rest => do
    let a ← t.describe
    let as ← describeAll rest
    pure (a :: as)

end

end HostType

end SchemaDialogue
