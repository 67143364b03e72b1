import SchemaDialogue.Describe.Registry
import SchemaDialogue.Read.Choice

/-!
# Reading descriptions

The JSON form of a description: type expressions are choices, definitions are tagged by `kind`, and
a description file is an object whose member `types` holds the definitions in order. Members that
are not known are ignored. A type expression is read by recursion on its draft.
-/

namespace SchemaDialogue

open Read

namespace Literal

def read : Reader Literal :=
  untagged "LiteralValue" [
    fun r d => (Read.null r d).map fun _ => .null,
    fun r d => (Read.boolean r d).map .bool,
    fun r d => (Read.number .real r d).map .number,
    fun r d => (Read.text r d).map .string]

end Literal

namespace TypeExpr

/-- The type expressions that are written as a bare name. -/
def bareForms : List (String × TypeExpr) :=
  [("string", string), ("number", number), ("integer", integer), ("boolean", boolean), ("any", any),
    ("null", null), ("never", never), ("self", self)]

/-- The names of all forms of a type expression. -/
def formNames : List String :=
  bareForms.map (·.1) ++ ["var", "named", "list", "map", "tuple", "variadic_tuple", "union",
    "literal", "required", "not_required", "documented"]

/-- Read an optional part of a draft. -/
def readOption {α : Type} (c : Draft) (part : Unit → Outcome α) : Outcome (Option α) :=
  match c with
  | .leaf ⟨.word .null, _, _, _⟩ _ => .ok none
  | .leaf ⟨.broken (.word .null) strict _, _, _, _⟩ _ => .error (.fault strict)
  | _ => (part ()).map some

def read (r : Reading) (d : Draft) : Outcome TypeExpr :=
  choiceOf r formNames d fun inner name given =>
    match name with
    | "var" => valueVariant inner given fun c _ => (Read.text inner c).map .var
    | "named" => do
      let (key, args) ← recordVariant inner given
        { expected := .variantRecord "Annotation::Named"
          fields := [
            field "key" .required Read.text fun v s => (v, s.2),
            ⟨"args", .defaulted, fun r c _ =>
              (sequenceOf r c fun r e _ => read r e).map fun v s => (s.1, v)⟩]
          blank := ("", []) }
      pure (named key args)
    | "list" => valueVariant inner given fun c _ =>
      (readOption c fun _ => read inner c).map list
    | "map" => do
      let (key, value) ← recordVariant inner given
        { expected := .variantRecord "Annotation::Map"
          fields := [
            ⟨"key", .defaulted, fun r c _ =>
              (readOption c fun _ => read r c).map fun v s => (v, s.2)⟩,
            ⟨"value", .defaulted, fun r c _ =>
              (readOption c fun _ => read r c).map fun v s => (s.1, v)⟩]
          blank := (none, none) }
      pure (map key value)
    | "tuple" => valueVariant inner given fun c _ =>
      (sequenceOf inner c fun r e _ => read r e).map tuple
    | "variadic_tuple" => valueVariant inner given fun c _ => (read inner c).map variadic
    | "union" => valueVariant inner given fun c _ =>
      (sequenceOf inner c fun r e _ => read r e).map union
    | "literal" => valueVariant inner given fun c _ => (sequence Literal.read inner c).map literal
    | "required" => valueVariant inner given fun c _ => (read inner c).map required
    | "not_required" => valueVariant inner given fun c _ => (read inner c).map notRequired
    | "documented" => do
      let (doc, part) ← recordVariant inner given
        { expected := .variantRecord "Annotation::Documented"
          fields := [
            field "doc" .required Read.text fun v s => (v, s.2),
            ⟨"inner", .required, fun r c _ => (read r c).map fun v s => (s.1, v)⟩]
          blank := ("", any) }
      pure (documented doc part)
    | name => do
      bareVariant inner given
      pure ((bareForms.lookup name).getD any)
termination_by sizeOf d
decreasing_by all_goals simp only [Draft.Below] at *; omega

end TypeExpr

def FieldDef.form : RecordForm FieldDef fun _ => True :=
  { expected := .record "FieldDef"
    fields := [
      field "name" .required text fun v f => { f with name := v },
      field "type" .required TypeExpr.read fun v f => { f with type := v },
      field "optional" .defaulted boolean fun v f => { f with optional := v },
      field "doc" .defaulted (Read.optional Read.text) fun v f => { f with doc := v }]
    blank := { name := "", type := .any } }

def FieldDef.read : Reader FieldDef := Read.record FieldDef.form

def RecordDef.form : RecordForm RecordDef fun _ => True :=
  { expected := .record "RecordDef"
    fields := [
      field "name" .required text fun v r => { r with name := v },
      field "doc" .defaulted (Read.optional Read.text) fun v r => { r with doc := v },
      field "type_params" .defaulted (sequence text) fun v r => { r with typeParams := v },
      field "bases" .defaulted (sequence TypeExpr.read) fun v r => { r with bases := v },
      field "fields" .defaulted (sequence FieldDef.read) fun v r => { r with fields := v },
      field "extra" .defaulted (Read.optional TypeExpr.read) fun v r => { r with extra := v }]
    blank := { name := "" } }

def RecordDef.read : Reader RecordDef := Read.record RecordDef.form

def AliasDef.form : RecordForm AliasDef fun _ => True :=
  { expected := .record "AliasDef"
    fields := [
      field "name" .required text fun v a => { a with name := v },
      field "doc" .defaulted (Read.optional Read.text) fun v a => { a with doc := v },
      field "type_params" .defaulted (sequence text) fun v a => { a with typeParams := v },
      field "target" .required TypeExpr.read fun v a => { a with target := v }]
    blank := { name := "", target := .any } }

def AliasDef.read : Reader AliasDef := Read.record AliasDef.form

/-- The form of an opaque type. -/
def TypeDef.opaqueForm : RecordForm String fun _ => True :=
  { expected := .variantRecord "TypeDef::Opaque"
    fields := [field "name" .required text fun v _ => v]
    blank := "" }

def TypeDef.read : Reader TypeDef :=
  tagged "TypeDef" "kind" ["record", "alias", "opaque"] fun kind r d =>
    match kind with
    | "record" => (RecordDef.read r d).map .record
    | "alias" => (AliasDef.read r d).map .aliased
    | _ => (Read.record TypeDef.opaqueForm r d).map .opaqueType

def Registry.form : RecordForm Registry fun _ => True :=
  { expected := .record "TypeRegistry"
    fields := [field "types" .required (mapping TypeDef.read) fun v g => { g with types := v }]
    blank := .empty }

def Registry.read : Reader Registry := Read.record Registry.form

end SchemaDialogue
