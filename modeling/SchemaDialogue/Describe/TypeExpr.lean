import SchemaDialogue.Json.Basic

/-!
# Type expressions

A type expression says what values a place in the data may hold. It is reported by whoever
describes the data and refers to described types by key. Three wrappers carry no shape of their own:
documentation, and the overrides that make a field required or optional.
-/

namespace SchemaDialogue

/-- The identity of a described type; its written name may differ. -/
abbrev TypeKey := String

inductive Literal where
  | null
  | bool (value : Bool)
  | number (n : Number)
  | string (s : String)
deriving DecidableEq

inductive TypeExpr where
  | string
  | number
  /-- A number without a fraction; it is written like `number`. -/
  | integer
  | boolean
  | any
  | null
  | never
  /-- The innermost record around this place. -/
  | self
  /-- A type parameter of the enclosing definition. -/
  | var (name : String)
  | named (key : TypeKey) (args : List TypeExpr)
  /-- A list; without an element type its elements are anything. -/
  | list (element : Option TypeExpr)
  /-- An object with any keys; without types its keys are strings and its values anything. -/
  | map (key value : Option TypeExpr)
  | tuple (elements : List TypeExpr)
  /-- A list written as a tuple of any length. -/
  | variadic (element : TypeExpr)
  | union (members : List TypeExpr)
  | literal (choices : List Literal)
  | required (inner : TypeExpr)
  | notRequired (inner : TypeExpr)
  | documented (doc : String) (inner : TypeExpr)

namespace Literal

/-- The JSON value of a literal. -/
def toJson : Literal → Json
  | null => .null
  | bool b => .bool b
  | number n => .number n
  | string s => .string s

/-- Equality of literals; the two zeros of a kind are one. -/
def same : Literal → Literal → Bool
  | null, null => true
  | bool a, bool b => a == b
  | number a, number b => a.same b
  | string a, string b => a == b
  | _, _ => false

/-- Does a JSON value equal this literal? Numbers are compared as doubles. -/
def admits : Literal → Json → Bool
  | null, .null => true
  | bool a, .bool b => a == b
  | number a, .number b => a.matchesValue b
  | string a, .string b => a == b
  | _, _ => false

/-- Is a JSON value of the kind of this literal? -/
def sameKind : Literal → Json → Bool
  | null, .null => true
  | bool _, .bool _ => true
  | number _, .number _ => true
  | string _, .string _ => true
  | _, _ => false

end Literal

namespace TypeExpr

/-- The reference to a type without arguments. -/
def reference (key : TypeKey) : TypeExpr := named key []

/-- `inner`, or `null`. -/
def nullable (inner : TypeExpr) : TypeExpr := union [inner, null]

/-- The type without the wrappers around it. -/
def unwrapped : TypeExpr → TypeExpr
  | required inner => inner.unwrapped
  | notRequired inner => inner.unwrapped
  | documented _ inner => inner.unwrapped
  | other => other

mutual

/-- Does neither a type parameter nor `self` occur? -/
def isClosed : TypeExpr → Bool
  | self => false
  | var _ => false
  | named _ args => allClosed args
  | list element => optionClosed element
  | map key value => optionClosed key && optionClosed value
  | tuple elements => allClosed elements
  | variadic element => element.isClosed
  | union members => allClosed members
  | required inner => inner.isClosed
  | notRequired inner => inner.isClosed
  | documented _ inner => inner.isClosed
  | _ => true

def allClosed : List TypeExpr → Bool
  | [] => true
  | a :: rest => a.isClosed && allClosed rest

def optionClosed : Option TypeExpr → Bool
  | none => true
  | some a => a.isClosed

end

mutual

/-- Equality of type expressions; the two zeros of a literal are one. -/
def same : TypeExpr → TypeExpr → Bool
  | string, string => true
  | number, number => true
  | integer, integer => true
  | boolean, boolean => true
  | any, any => true
  | null, null => true
  | never, never => true
  | self, self => true
  | var a, var b => a == b
  | named k as, named l bs => k == l && sameAll as bs
  | list a, list b => sameOption a b
  | map k v, map l w => sameOption k l && sameOption v w
  | tuple as, tuple bs => sameAll as bs
  | variadic a, variadic b => a.same b
  | union as, union bs => sameAll as bs
  | literal as, literal bs => as.length == bs.length && (as.zip bs).all fun p => p.1.same p.2
  | required a, required b => a.same b
  | notRequired a, notRequired b => a.same b
  | documented d a, documented e b => d == e && a.same b
  | _, _ => false

def sameAll : List TypeExpr → List TypeExpr → Bool
  | [], [] => true
  | a :: as, b :: bs => a.same b && sameAll as bs
  | _, _ => false

def sameOption : Option TypeExpr → Option TypeExpr → Bool
  | none, none => true
  | some a, some b => a.same b
  | _, _ => false

end

end TypeExpr

end SchemaDialogue
