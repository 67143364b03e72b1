import SchemaDialogue.Describe.Definition
import SchemaDialogue.Text.Quoted

/-!
# Showing descriptions

The one-line form in which diagnostics show values: constructors with their parts in parentheses,
records with named parts in braces, texts in quotes.
-/

namespace SchemaDialogue

namespace Display

/-- A constructor with one part. -/
def wrap (name part : String) : String := name ++ "(" ++ part ++ ")"

/-- A record with named parts. -/
def fields (name : String) (parts : List (String × String)) : String :=
  name ++ " \x7b " ++ String.intercalate ", " (parts.map fun p => p.1 ++ ": " ++ p.2) ++ " \x7d"

/-- A list of parts. -/
def list (parts : List String) : String := "[" ++ String.intercalate ", " parts ++ "]"

/-- A part that may be missing. -/
def option : Option String → String
  | none => "None"
  | some part => wrap "Some" part

end Display

def Literal.display : Literal → String
  | null => "Null"
  | bool b => Display.wrap "Bool" (toString b)
  | number n => Display.wrap "Number" (Display.wrap "Number" n.text)
  | string s => Display.wrap "String" (Text.quoted s)

namespace TypeExpr

mutual

def display : TypeExpr → String
  | string => "String"
  | number => "Number"
  | integer => "Integer"
  | boolean => "Boolean"
  | any => "Any"
  | null => "Null"
  | never => "Never"
  | self => "SelfType"
  | var name => Display.wrap "Var" (Text.quoted name)
  | named key args =>
    Display.fields "Named" [("key", Display.wrap "TypeKey" (Text.quoted key)),
      ("args", Display.list (displayAll args))]
  | list element => Display.wrap "List" (displayOption element)
  | map key value =>
    Display.fields "Map" [("key", displayOption key), ("value", displayOption value)]
  | tuple elements => Display.wrap "Tuple" (Display.list (displayAll elements))
  | variadic element => Display.wrap "VariadicTuple" element.display
  | union members => Display.wrap "Union" (Display.list (displayAll members))
  | literal choices => Display.wrap "Literal" (Display.list (choices.map Literal.display))
  | required inner => Display.wrap "Required" inner.display
  | notRequired inner => Display.wrap "NotRequired" inner.display
  | documented doc inner =>
    Display.fields "Documented" [("doc", Text.quoted doc), ("inner", inner.display)]

def displayAll : List TypeExpr → List String
  | [] => []
  | a :: rest => a.display :: displayAll rest

def displayOption : Option TypeExpr → String
  | none => "None"
  | some a => Display.wrap "Some" a.display

end

end TypeExpr

end SchemaDialogue
