import SchemaDialogue.Describe.Definition

/-!
# Scopes

A scope says what type parameters and `self` mean at a place. It binds them to closed type
expressions only, so that one substitution removes every parameter and no parameter of a caller is
taken for one of the callee. `isClosed_substitute` is the law behind that.
-/

namespace SchemaDialogue

/-- A type expression without type parameters and without `self`. -/
abbrev ClosedType := { t : TypeExpr // t.isClosed = true }

/-- The meaning of type parameters, and of `self` inside a record. -/
structure Scope where
  bindings : Entries ClosedType := []
  this : Option ClosedType := none

namespace Scope

/-- The scope outside of all definitions. -/
def empty : Scope := {}

/-- The meaning of a type parameter. An unbound one means any value. -/
def meaning (s : Scope) (name : String) : TypeExpr :=
  match s.bindings.find? name with
  | some bound => bound.1
  | none => .any

/-- The meaning of `self`. Outside of all records it means any value. -/
def selfMeaning (s : Scope) : TypeExpr :=
  match s.this with
  | some this => this.1
  | none => .any

theorem isClosed_meaning (s : Scope) (name : String) : (s.meaning name).isClosed = true := by
  unfold meaning
  split
  · next bound _ => exact bound.2
  · rfl

theorem isClosed_selfMeaning (s : Scope) : s.selfMeaning.isClosed = true := by
  unfold selfMeaning
  split
  · next this _ => exact this.2
  · rfl

mutual

/-- Put their meanings in the place of type parameters and `self`. -/
def substitute (s : Scope) : TypeExpr → TypeExpr
  | .var name => s.meaning name
  | .self => s.selfMeaning
  | .named key args => .named key (substituteAll s args)
  | .list element => .list (substituteOption s element)
  | .map key value => .map (substituteOption s key) (substituteOption s value)
  | .tuple elements => .tuple (substituteAll s elements)
  | .variadic element => .variadic (substitute s element)
  | .union members => .union (substituteAll s members)
  | .required inner => .required (substitute s inner)
  | .notRequired inner => .notRequired (substitute s inner)
  | .documented doc inner => .documented doc (substitute s inner)
  | .string => .string
  | .number => .number
  | .integer => .integer
  | .boolean => .boolean
  | .any => .any
  | .null => .null
  | .never => .never
  | .literal choices => .literal choices

def substituteAll (s : Scope) : List TypeExpr → List TypeExpr
  | [] => []
  | t :: rest => substitute s t :: substituteAll s rest

def substituteOption (s : Scope) : Option TypeExpr → Option TypeExpr
  | none => none
  | some t => some (substitute s t)

end

mutual

/-- Substitution leaves neither type parameters nor `self`. -/
theorem isClosed_substitute (s : Scope) (t : TypeExpr) : (s.substitute t).isClosed = true := by
  cases t with
  | var name => simpa only [substitute] using s.isClosed_meaning name
  | self => simpa only [substitute] using s.isClosed_selfMeaning
  | named key args => simpa only [substitute, TypeExpr.isClosed] using allClosed_substitute s args
  | list element =>
    simpa only [substitute, TypeExpr.isClosed] using optionClosed_substitute s element
  | map key value =>
    simp only [substitute, TypeExpr.isClosed, optionClosed_substitute s key,
      optionClosed_substitute s value, Bool.and_self]
  | tuple elements =>
    simpa only [substitute, TypeExpr.isClosed] using allClosed_substitute s elements
  | variadic element =>
    simpa only [substitute, TypeExpr.isClosed] using isClosed_substitute s element
  | union members =>
    simpa only [substitute, TypeExpr.isClosed] using allClosed_substitute s members
  | required inner => simpa only [substitute, TypeExpr.isClosed] using isClosed_substitute s inner
  | notRequired inner =>
    simpa only [substitute, TypeExpr.isClosed] using isClosed_substitute s inner
  | documented doc inner =>
    simpa only [substitute, TypeExpr.isClosed] using isClosed_substitute s inner
  | _ => rfl

theorem allClosed_substitute (s : Scope) (ts : List TypeExpr) :
    TypeExpr.allClosed (s.substituteAll ts) = true := by
  cases ts with
  | nil => rfl
  | cons t rest =>
    simp only [substituteAll, TypeExpr.allClosed, isClosed_substitute s t,
      allClosed_substitute s rest, Bool.and_self]

theorem optionClosed_substitute (s : Scope) (t : Option TypeExpr) :
    TypeExpr.optionClosed (s.substituteOption t) = true := by
  cases t with
  | none => rfl
  | some t => simpa only [substituteOption, TypeExpr.optionClosed] using isClosed_substitute s t

end

/-- The closed type expression that a type expression means. -/
def close (s : Scope) (t : TypeExpr) : ClosedType := ⟨s.substitute t, s.isClosed_substitute t⟩

/-- The type parameters bound to what the arguments mean; parameters without an argument stay
unbound, and of parameters with one name the last counts. -/
def bind (s : Scope) (params : List String) (args : List TypeExpr) : Entries ClosedType :=
  Entries.ofList (params.zip (args.map s.close))

/-- The scope inside a definition whose `self` is that of the place that refers to it. -/
def enter (s : Scope) (params : List String) (args : List TypeExpr) : Scope :=
  ⟨s.bind params args, s.this⟩

/-- The scope inside a record, which is its own `self`. -/
def enterRecord (s : Scope) (key : TypeKey) (params : List String) (args : List TypeExpr) : Scope :=
  ⟨s.bind params args, some (s.close (.named key args))⟩

end Scope

end SchemaDialogue
