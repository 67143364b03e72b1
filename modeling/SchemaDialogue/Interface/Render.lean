import SchemaDialogue.Interface.Node
import SchemaDialogue.Json.Print
import SchemaDialogue.Text.Blank

/-!
# The text of declarations

Declarations are written in the order given, with a blank line between them, members in their order.
A union is written flat: the members of inner unions take their place, a text that has been written
is not written again, and `null` goes last. Documentation becomes line comments.
-/

namespace SchemaDialogue

/-- A list without the repetitions of earlier elements. -/
def distinct : List String → List String
  | [] => []
  | a :: rest => a :: (distinct rest).filter (· ≠ a)

namespace LiteralNode

def render : LiteralNode → String
  | string s => Json.quote s
  | number n => n.text
  | boolean b => toString b

end LiteralNode

namespace Node

mutual

/-- Is `null` among the leaves of this union member? -/
def admitsNull : Node → Bool
  | primitive .null => true
  | union members => someNull members
  | _ => false

def someNull : List Node → Bool
  | [] => false
  | n :: rest => n.admitsNull || someNull rest

end

/-- The text of a union from the texts of its leaves other than `null`. -/
def unionText (leaves : List String) (nullable : Bool) : String :=
  match distinct leaves ++ (if nullable then ["null"] else []) with
  | [] => "never"
  | parts => String.intercalate " | " parts

mutual

def render : Node → String
  | primitive p => p.keyword
  | reference name [] => name
  | reference name (arg :: args) =>
    name ++ "<" ++ String.intercalate ", " (renderAll (arg :: args)) ++ ">"
  -- Behind a union, brackets would belong to its last member alone.
  | array (union members) => "Array<" ++ unionText (leafTexts members) (someNull members) ++ ">"
  | array element => element.render ++ "[]"
  | tuple elements => "[" ++ String.intercalate ", " (renderAll elements) ++ "]"
  | union members => unionText (leafTexts members) (someNull members)
  | literal l => l.render

def renderAll : List Node → List String
  | [] => []
  | n :: rest => n.render :: renderAll rest

/-- The texts of the leaves of union members, other than `null`. -/
def leafTexts : List Node → List String
  | [] => []
  | union inner :: rest => leafTexts inner ++ leafTexts rest
  | primitive .null :: rest => leafTexts rest
  | n :: rest => n.render :: leafTexts rest

end

end Node

namespace Declaration

/-- The indentation of members. -/
def indent : String := "    "

/-- One line of a comment. -/
def commentLine (indentation : String) (line : List Char) : String :=
  match Text.trim line with
  | [] => indentation ++ "//\n"
  | text => indentation ++ "// " ++ String.ofList text ++ "\n"

/-- Documentation as line comments; blank documentation is none. -/
def comment (doc indentation : String) : String :=
  match Text.trim doc.toList with
  | [] => ""
  | text => String.join ((Text.splitLines text).map (commentLine indentation))

def params : List String → String
  | [] => ""
  | names => "<" ++ String.intercalate ", " names ++ ">"

/-- May this character start an unquoted name? -/
def isNameStart (c : Char) : Bool := c.isAlpha || c = '_' || c = '$'

/-- May this character stand in an unquoted name? -/
def isNamePart (c : Char) : Bool := isNameStart c || c.isDigit

/-- Can a property name be written without quotes? -/
def isBareName (name : String) : Bool :=
  match name.toList with
  | [] => false
  | c :: rest => isNameStart c && rest.all isNamePart

/-- A property name, quoted where it has to be. -/
def propertyName (name : String) : String := if isBareName name then name else Json.quote name

def member : Member → String
  | .property p =>
    comment p.doc indent ++ indent ++ propertyName p.name ++ (if p.optional then "?" else "") ++
      ": " ++ p.type.render ++ ";"
  | .index key value => indent ++ "[key: " ++ key.render ++ "]: " ++ value.render ++ ";"

def extending : List Node → String
  | [] => ""
  | bases => " extends " ++ String.intercalate ", " (Node.renderAll bases)

def render : Declaration → String
  | interface i =>
    comment i.doc "" ++ "interface " ++ i.name ++ params i.typeParams ++ extending i.bases ++
      " \x7b\n" ++ String.join (i.members.map fun m => member m ++ "\n") ++ "\x7d\n"
  | aliased a =>
    comment a.doc "" ++ "type " ++ a.name ++ params a.typeParams ++ " = " ++ a.target.render ++ "\n"

/-- The text of declarations, with a blank line between them. -/
def renderAll (declarations : List Declaration) : String :=
  String.intercalate "\n" (declarations.map render)

end Declaration

end SchemaDialogue
