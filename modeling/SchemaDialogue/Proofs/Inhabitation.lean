import SchemaDialogue.Interface.Node
import SchemaDialogue.Json.Basic
import SchemaDialogue.Json.Token

/-!
# The values of declarations

What a list of declarations says about a value, read as structural types and without reference to
the definitions that they come from. `Inhabits` has one rule for each form of node:

* an interface is a closed object with required and optional properties, open only where it has an
  index signature;
* a reference stands for the first declaration of that name, with its type parameters bound; a
  parameter without an argument stands for any value;
* `Record<K, V>` is an object with values in `V`, whose member names are numbers when `K` is
  `number`;
* `this` is the innermost interface around it.

An interface with bases has no rule.
-/

namespace SchemaDialogue

/-- Does a value equal this literal? Numbers are compared as doubles. -/
def LiteralNode.admits : LiteralNode → Json → Bool
  | string a, .string b => a == b
  | number a, .number b => a.matchesValue b
  | boolean a, .bool b => a == b
  | _, _ => false

/-- May a member have this name, its keys being of this type? -/
def Node.admitsKey (key : Node) (name : String) : Bool :=
  !key.isNumber || (Number.ofText? name).isSome

/-- Does an interface list a property of that name? -/
def InterfaceDecl.HasProperty (i : InterfaceDecl) (name : String) : Prop :=
  ∃ p, Member.property p ∈ i.members ∧ p.name = name

/-- What type parameters and `this` stand for inside of a declaration. -/
structure Env where
  params : Entries Node := []
  this : Option Node := none

namespace Env

mutual

/-- Put what they stand for in the place of type parameters and `this`. -/
def close (e : Env) : Node → Node
  | .primitive .this => e.this.getD .any
  | .reference name [] => (e.params.find? name).getD (.reference name [])
  | .reference name (arg :: args) => .reference name (close e arg :: closeAll e args)
  | .array element => .array (close e element)
  | .tuple elements => .tuple (closeAll e elements)
  | .union members => .union (closeAll e members)
  | other => other

/-- Close every node. -/
def closeAll (e : Env) : List Node → List Node
  | [] => []
  | n :: rest => close e n :: closeAll e rest

end

/-- The parameters with their arguments; a parameter without an argument stands for any value. -/
def bind : List String → List Node → Entries Node
  | [], _ => []
  | param :: rest, args => (param, args.head?.getD .any) :: bind rest args.tail

/-- The inside of a declaration that is referred to with these arguments. -/
def enter (e : Env) (params : List String) (args : List Node) : Env :=
  ⟨bind params (e.closeAll args), e.this⟩

/-- The inside of an interface, which is its own `this`. -/
def enterInterface (e : Env) (name : String) (params : List String) (args : List Node) : Env :=
  ⟨bind params (e.closeAll args), some (e.close (.reference name args))⟩

/-- The declaration that a reference stands for, unless it is a type parameter. -/
def resolve (e : Env) (declarations : List Declaration) (name : String) (args : List Node) :
    Option Declaration :=
  if args.isEmpty && (e.params.find? name).isSome then none
  else declarations.find? (·.name = name)

end Env

/-- A value inhabits a node. What stands for a type parameter or for `this` has no parameters. -/
inductive Inhabits (declarations : List Declaration) : Env → Node → Json → Prop
  | any {e value} : Inhabits declarations e (.primitive .any) value
  | string {e s} : Inhabits declarations e (.primitive .string) (.string s)
  | number {e n} : Inhabits declarations e (.primitive .number) (.number n)
  | boolean {e b} : Inhabits declarations e (.primitive .boolean) (.bool b)
  | null {e} : Inhabits declarations e (.primitive .null) .null
  | literal {e l value} : LiteralNode.admits l value = true →
      Inhabits declarations e (.literal l) value
  | thisFree {e value} : e.this = none → Inhabits declarations e (.primitive .this) value
  | this {e n value} : e.this = some n → Inhabits declarations ⟨[], e.this⟩ n value →
      Inhabits declarations e (.primitive .this) value
  | array {e element items} : (∀ item ∈ items, Inhabits declarations e element item) →
      Inhabits declarations e (.array element) (.array items)
  | tuple {e elements items} : items.length = elements.length →
      (∀ p ∈ elements.zip items, Inhabits declarations e p.1 p.2) →
      Inhabits declarations e (.tuple elements) (.array items)
  | union {e members n value} : n ∈ members → Inhabits declarations e n value →
      Inhabits declarations e (.union members) value
  | param {e name n value} : e.params.find? name = some n →
      Inhabits declarations ⟨[], e.this⟩ n value →
      Inhabits declarations e (.reference name []) value
  | record {e key element members} :
      (∀ name item, (name, item) ∈ members → Node.admitsKey key name = true) →
      (∀ name item, (name, item) ∈ members → Inhabits declarations e element item) →
      Inhabits declarations e (.reference "Record" [key, element]) (.object members)
  | aliased {e name args a value} : e.resolve declarations name args = some (.aliased a) →
      Inhabits declarations (e.enter a.typeParams args) a.target value →
      Inhabits declarations e (.reference name args) value
  | interface {e name args i members} :
      e.resolve declarations name args = some (.interface i) → i.bases = [] →
      -- the properties that are there
      (∀ p item, Member.property p ∈ i.members → Entries.find? members p.name = some item →
        Inhabits declarations (e.enterInterface name i.typeParams args) p.type item) →
      -- the properties that are missing
      (∀ p, Member.property p ∈ i.members → Entries.find? members p.name = none →
        p.optional = true) →
      -- the members that are no property
      (∀ name' item, (name', item) ∈ members → ¬i.HasProperty name' →
        ∃ key element, Member.index key element ∈ i.members) →
      (∀ name' item key element, (name', item) ∈ members → ¬i.HasProperty name' →
        Member.index key element ∈ i.members → Node.admitsKey key name' = true) →
      (∀ name' item key element, (name', item) ∈ members → ¬i.HasProperty name' →
        Member.index key element ∈ i.members →
        Inhabits declarations (e.enterInterface name i.typeParams args) element item) →
      Inhabits declarations e (.reference name args) (.object members)

namespace Env

theorem closeAll_eq_map (e : Env) (ns : List Node) : e.closeAll ns = ns.map e.close := by
  induction ns with
  | nil => rfl
  | cons n rest ih => rw [closeAll, ih, List.map_cons]

theorem keys_bind (params : List String) (args : List Node) : (bind params args).keys = params := by
  induction params generalizing args with
  | nil => rfl
  | cons param rest ih =>
    show param :: (bind rest args.tail).keys = param :: rest
    rw [ih]

end Env

end SchemaDialogue
