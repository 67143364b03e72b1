import SchemaDialogue.Describe.Ancestry
import SchemaDialogue.Interface.Node

/-!
# Declarations of described types

Each definition becomes one declaration. Named types are never inlined: a reference is written by
name, and the keys that a definition refers to are listed in the order of their first mention. A
shape that cannot be expressed degrades to `any`, to `never` or to an empty interface, and each time
an error says so. The declaration, its errors and its references are three readings of the same
definition in the same order.
-/

namespace SchemaDialogue

/-- Why a declaration says less than its definition. -/
inductive GraphError where
  | unsupported (name : String)
  | notDescribed (key : TypeKey)
  | danglingReference (key : TypeKey)
  | argumentCount (name : String) (params args : Nat)
  | emptyUnion
  | emptyLiteral
  | repeatedOptionality (field : String)
  | nameCollision (name : String) (owner key : TypeKey)
deriving DecidableEq

def GraphError.message : GraphError → String
  | unsupported name =>
    "'" ++ name ++ "' is neither a record nor an alias; only record and alias declarations are " ++
      "supported."
  | notDescribed key => "Type '" ++ key ++ "' is not described."
  | danglingReference key => "Type '" ++ key ++ "' is referenced but not described."
  | argumentCount name params args =>
    "Expected " ++ toString params ++ " type argument(s) for '" ++ name ++ "', got " ++
      toString args ++ "."
  | emptyUnion => "An empty union cannot be used as a type annotation."
  | emptyLiteral => "A literal annotation needs at least one value."
  | repeatedOptionality field =>
    "Optionality of '" ++ field ++ "' is specified more than once; the outermost annotation wins."
  | nameCollision name owner key =>
    "'" ++ name ++ "' is declared by both '" ++ owner ++ "' and '" ++ key ++
      "'; only the first is kept."

def Literal.node : Literal → Node
  | null => .primitive .null
  | bool b => .literal (.boolean b)
  | number n => .literal (.number n)
  | string s => .literal (.string s)

namespace TypeExpr

/-! ## Nodes -/

/-- The key type of a map: only numbers are kept. -/
def mapKey (key : Node) : Node := if key.isNumber then key else .string

mutual

def node (source : Registry) : TypeExpr → Node
  | string => .primitive .string
  | number => .primitive .number
  | integer => .primitive .number
  | boolean => .primitive .boolean
  | any => .any
  | null => .primitive .null
  | never => .never
  | self => .primitive .this
  | var name => .reference name []
  | named key args =>
    match source.lookup key with
    | none => .any
    | some definition => .reference definition.name (nodes source args)
  | list element => .array (nodeOr source .any element)
  | map key value =>
    .reference "Record" [mapKey (nodeOr source .string key), nodeOr source .any value]
  | tuple elements => .tuple (nodes source elements)
  | variadic element => .array (node source element)
  | union [] => .never
  | union (first :: others) => .union (node source first :: nodes source others)
  | literal [] => .never
  | literal (first :: others) => .union ((first :: others).map Literal.node)
  | required inner => node source inner
  | notRequired inner => node source inner
  | documented _ inner => node source inner

def nodes (source : Registry) : List TypeExpr → List Node
  | [] => []
  | t :: rest => node source t :: nodes source rest

def nodeOr (source : Registry) (missing : Node) : Option TypeExpr → Node
  | none => missing
  | some t => node source t

end

/-! ## Errors -/

mutual

/-- The errors of a type expression, in order. -/
def errors (source : Registry) : TypeExpr → List GraphError
  | named key args =>
    match source.lookup key with
    | none => [.danglingReference key]
    | some definition =>
      (if definition.typeParams.length = args.length then []
        else [.argumentCount definition.name definition.typeParams.length args.length]) ++
        errorsAll source args
  | list element => errorsOption source element
  | map key value => errorsOption source key ++ errorsOption source value
  | tuple elements => errorsAll source elements
  | variadic element => errors source element
  | union [] => [.emptyUnion]
  | union (first :: others) => errors source first ++ errorsAll source others
  | literal [] => [.emptyLiteral]
  | required inner => errors source inner
  | notRequired inner => errors source inner
  | documented _ inner => errors source inner
  | _ => []

def errorsAll (source : Registry) : List TypeExpr → List GraphError
  | [] => []
  | t :: rest => errors source t ++ errorsAll source rest

def errorsOption (source : Registry) : Option TypeExpr → List GraphError
  | none => []
  | some t => errors source t

end

/-! ## References -/

mutual

/-- The described keys that a type expression mentions, in order: a key before its arguments, the
key of a map before its value. -/
def references (source : Registry) : TypeExpr → List TypeKey
  | named key args =>
    if source.contains key then key :: referencesAll source args else []
  | list element => referencesOption source element
  | map key value => referencesOption source key ++ referencesOption source value
  | tuple elements => referencesAll source elements
  | variadic element => references source element
  | union members => referencesAll source members
  | required inner => references source inner
  | notRequired inner => references source inner
  | documented _ inner => references source inner
  | _ => []

def referencesAll (source : Registry) : List TypeExpr → List TypeKey
  | [] => []
  | t :: rest => references source t ++ referencesAll source rest

def referencesOption (source : Registry) : Option TypeExpr → List TypeKey
  | none => []
  | some t => references source t

end

end TypeExpr

/-! ## Fields -/

/-- What the wrappers around the type of a field say: the optionality of the outermost override, the
outermost documentation, the number of overrides, and the type inside. -/
structure FieldWrapping where
  optional : Option Bool
  doc : Option String
  overrides : Nat
  inner : TypeExpr

namespace FieldWrapping

/-- Unwrap the type of a field. -/
def ofType : TypeExpr → FieldWrapping
  | .documented doc inner => { ofType inner with doc := some doc }
  | .required inner =>
    -- What is set here replaces what the wrappers inside have set.
    let w := ofType inner
    { w with optional := some false, overrides := w.overrides + 1 }
  | .notRequired inner =>
    let w := ofType inner
    { w with optional := some true, overrides := w.overrides + 1 }
  | inner => ⟨none, none, 0, inner⟩

end FieldWrapping

namespace FieldDef

def property (source : Registry) (f : FieldDef) : Property :=
  let wrapping := FieldWrapping.ofType f.type
  { name := f.name
    optional := wrapping.optional.getD f.optional
    doc := (f.doc.or wrapping.doc).getD ""
    type := wrapping.inner.node source }

/-- The errors of a field: one for each further override of its optionality, then those of its
type. -/
def errors (source : Registry) (f : FieldDef) : List GraphError :=
  let wrapping := FieldWrapping.ofType f.type
  List.replicate (wrapping.overrides - 1) (.repeatedOptionality f.name) ++
    wrapping.inner.errors source

end FieldDef

/-! ## Definitions -/

namespace RecordDef

/-- The types that inherited records give to a field name. -/
def inheritedTypes (source : Registry) (r : RecordDef) (name : String) : List TypeExpr :=
  (source.ancestry (fun _ _ _ => ()) r ()).flatMap fun ancestor =>
    (ancestor.1.fields.filter (·.name = name)).map (·.type)

/-- Is the field inherited, with the same type from all that have it? -/
def isInherited (source : Registry) (r : RecordDef) (f : FieldDef) : Bool :=
  let inherited := r.inheritedTypes source f.name
  !inherited.isEmpty && inherited.all (f.type.same ·)

/-- The fields that are declared: those that are not left to the bases. -/
def ownFields (source : Registry) (r : RecordDef) : List FieldDef :=
  r.fields.filter fun f => !r.isInherited source f

def declaration (source : Registry) (r : RecordDef) : InterfaceDecl :=
  { name := r.name
    typeParams := r.typeParams
    doc := r.doc.getD ""
    bases := TypeExpr.nodes source r.bases
    members :=
      ((r.ownFields source).map fun f => .property (f.property source)) ++
        match r.extra with
        | none => []
        | some extra => [.index .string (extra.node source)] }

def errors (source : Registry) (r : RecordDef) : List GraphError :=
  TypeExpr.errorsAll source r.bases ++ (r.ownFields source).flatMap (·.errors source) ++
    TypeExpr.errorsOption source r.extra

/-- The keys that the declaration of a record refers to. -/
def references (source : Registry) (r : RecordDef) : List TypeKey :=
  TypeExpr.referencesAll source r.bases ++
    (r.ownFields source).flatMap (fun f => f.type.references source) ++
    TypeExpr.referencesOption source r.extra

end RecordDef

namespace Registry

/-- The declaration of a key. -/
def declaration (source : Registry) (key : TypeKey) : Declaration :=
  match source.lookup key with
  | some (.record r) => .interface (r.declaration source)
  | some (.aliased a) => .aliased ⟨a.name, a.typeParams, a.doc.getD "", a.target.node source⟩
  | some (.opaqueType name) => .interface (.ofName name)
  | none => .interface (.ofName key)

/-- The errors of a key's own declaration. -/
def errors (source : Registry) (key : TypeKey) : List GraphError :=
  match source.lookup key with
  | some (.record r) => r.errors source
  | some (.aliased a) => a.target.errors source
  | some (.opaqueType name) => [.unsupported name]
  | none => [.notDescribed key]

/-- The keys that the declaration of a key refers to. -/
def references (source : Registry) (key : TypeKey) : List TypeKey :=
  match source.lookup key with
  | some (.record r) => r.references source
  | some (.aliased a) => a.target.references source
  | _ => []

end Registry

end SchemaDialogue
