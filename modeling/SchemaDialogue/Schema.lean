import SchemaDialogue.Describe.Host
import SchemaDialogue.Describe.Show
import SchemaDialogue.Interface.Graph

/-!
# Schemas

A schema is a registry with the key of the type that a conversation is about. What is shown of it is
derived: the name of the type, the declarations reachable from it, and their text.
-/

namespace SchemaDialogue

/-- A registry and the key of its root type. -/
structure Schema where
  source : Registry
  root : TypeKey

namespace Schema

/-- The name of the root type; the key itself when the type is not described. -/
def typeName (s : Schema) : String :=
  match s.source.lookup s.root with
  | some definition => definition.name
  | none => s.root

/-- The type expression that refers to the root. -/
def rootType (s : Schema) : TypeExpr := .reference s.root

/-- The declarations reachable from the root. -/
def graph (s : Schema) : Graph := Graph.build s.source s.root

def text (s : Schema) : String := s.graph.render

/-- What could not be expressed, in words. -/
def errors (s : Schema) : List String := s.graph.errors.map GraphError.message

def display (s : Schema) : String :=
  Display.fields "TypeSchema" [
    ("root", Display.wrap "TypeKey" (Text.quoted s.root)),
    ("type_name", Text.quoted s.typeName),
    ("declarations", toString s.graph.declarations.length),
    ("errors", Display.list (s.errors.map Text.quoted))]

def displayValidator (s : Schema) : String :=
  Display.fields "JsonValidator" [("type_name", Text.quoted s.typeName)]

/-- The schema of a host type. Its description has to be a plain reference to a described type; any
other description is given back. -/
def ofHost (type : HostType) : Except TypeExpr Schema :=
  match type.describe.run .empty with
  | (.named key [], registry) => .ok ⟨registry, key⟩
  | (other, _) => .error other

/-- The wording of the failure of `ofHost`. -/
def unnamedRootMessage (description : TypeExpr) : String :=
  "the root type must describe itself as a named record or alias, got " ++ description.display

end Schema

end SchemaDialogue
