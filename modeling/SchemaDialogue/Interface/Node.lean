import SchemaDialogue.Json.Number

/-!
# Interface declarations

The declarations that are shown to a model: interfaces with properties and an index signature, and
type aliases, over type nodes. This is plain data, between the described types and their text.
-/

namespace SchemaDialogue

/-- A type named by a keyword. -/
inductive Primitive where
  | string
  | number
  | boolean
  | any
  | null
  | never
  | this
deriving DecidableEq

inductive LiteralNode where
  | string (s : String)
  | number (n : Number)
  | boolean (b : Bool)
deriving DecidableEq

/-- A type node. Unions hold their members as they were given. -/
inductive Node where
  | primitive (p : Primitive)
  | reference (name : String) (args : List Node)
  | array (element : Node)
  | tuple (elements : List Node)
  | union (members : List Node)
  | literal (l : LiteralNode)

structure Property where
  name : String
  optional : Bool
  /-- Empty when there is no documentation. -/
  doc : String
  type : Node

inductive Member where
  | property (p : Property)
  /-- The type of members that are not listed. -/
  | index (key value : Node)

structure InterfaceDecl where
  name : String
  typeParams : List String
  doc : String
  bases : List Node
  members : List Member

structure AliasDecl where
  name : String
  typeParams : List String
  doc : String
  target : Node

inductive Declaration where
  | interface (i : InterfaceDecl)
  | aliased (a : AliasDecl)

def Primitive.keyword : Primitive → String
  | string => "string"
  | number => "number"
  | boolean => "boolean"
  | any => "any"
  | null => "null"
  | never => "never"
  | this => "this"

namespace Node

def any : Node := primitive .any

def string : Node := primitive .string

def never : Node := primitive .never

def isNumber : Node → Bool
  | primitive .number => true
  | _ => false

def isNull : Node → Bool
  | primitive .null => true
  | _ => false

end Node

namespace Declaration

def name : Declaration → String
  | interface i => i.name
  | aliased a => a.name

end Declaration

namespace InterfaceDecl

/-- An interface of which nothing but the name is known. -/
def ofName (name : String) : InterfaceDecl := ⟨name, [], "", [], []⟩

end InterfaceDecl

end SchemaDialogue
