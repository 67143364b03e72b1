import SchemaDialogue.Describe.Registry
import SchemaDialogue.Json.Print

/-!
# Writing descriptions

The JSON form of a description, which `Describe/Form` reads. Parts that are empty are left out,
except where their absence would read as something else.
-/

namespace SchemaDialogue

/-- An object of one member. -/
def Json.single (key : String) (value : Json) : Json := .object [(key, value)]

/-- A member that is left out when there is no value. -/
def Json.optionalMember (key : String) : Option Json → List (String × Json)
  | none => []
  | some value => [(key, value)]

/-- A member that is left out when its list is empty. -/
def Json.listMember (key : String) : List Json → List (String × Json)
  | [] => []
  | items => [(key, .array items)]

namespace TypeExpr

mutual

def toJson : TypeExpr → Json
  | string => .string "string"
  | number => .string "number"
  | integer => .string "integer"
  | boolean => .string "boolean"
  | any => .string "any"
  | null => .string "null"
  | never => .string "never"
  | self => .string "self"
  | var name => .single "var" (.string name)
  | named key args =>
    .single "named" (.object (("key", .string key) :: Json.listMember "args" (toJsonAll args)))
  | list element => .single "list" (toJsonOption element)
  | map key value =>
    .single "map" (.object [("key", toJsonOption key), ("value", toJsonOption value)])
  | tuple elements => .single "tuple" (.array (toJsonAll elements))
  | variadic element => .single "variadic_tuple" element.toJson
  | union members => .single "union" (.array (toJsonAll members))
  | literal choices => .single "literal" (.array (choices.map Literal.toJson))
  | required inner => .single "required" inner.toJson
  | notRequired inner => .single "not_required" inner.toJson
  | documented doc inner =>
    .single "documented" (.object [("doc", .string doc), ("inner", inner.toJson)])

def toJsonAll : List TypeExpr → List Json
  | [] => []
  | a :: rest => a.toJson :: toJsonAll rest

def toJsonOption : Option TypeExpr → Json
  | none => .null
  | some a => a.toJson

end

end TypeExpr

def FieldDef.toJson (f : FieldDef) : Json :=
  .object <|
    [("name", .string f.name), ("type", f.type.toJson), ("optional", .bool f.optional)] ++
      Json.optionalMember "doc" (f.doc.map .string)

def RecordDef.members (r : RecordDef) : List (String × Json) :=
  [("name", .string r.name)] ++ Json.optionalMember "doc" (r.doc.map .string) ++
    Json.listMember "type_params" (r.typeParams.map .string) ++
    Json.listMember "bases" (r.bases.map TypeExpr.toJson) ++
    [("fields", .array (r.fields.map FieldDef.toJson))] ++
    Json.optionalMember "extra" (r.extra.map TypeExpr.toJson)

def RecordDef.toJson (r : RecordDef) : Json := .object r.members

def AliasDef.members (a : AliasDef) : List (String × Json) :=
  [("name", .string a.name)] ++ Json.optionalMember "doc" (a.doc.map .string) ++
    Json.listMember "type_params" (a.typeParams.map .string) ++ [("target", a.target.toJson)]

def AliasDef.toJson (a : AliasDef) : Json := .object a.members

def TypeDef.toJson : TypeDef → Json
  | record r => .object (("kind", .string "record") :: r.members)
  | aliased a => .object (("kind", .string "alias") :: a.members)
  | opaqueType name => .object [("kind", .string "opaque"), ("name", .string name)]

def Registry.toJson (r : Registry) : Json :=
  .single "types" (.object (r.types.map fun entry => (entry.1, entry.2.toJson)))

end SchemaDialogue
