import SchemaDialogue.Json.Basic

/-!
# Values without nulls

Members and items that are `null` are dropped at every depth. The order of the others and containers
that become empty are kept, and so is a value that is itself `null`.
-/

namespace SchemaDialogue.Json

mutual

/-- The value without the nulls below its root. -/
def stripNulls : Json → Json
  | array items => array (stripItems items)
  | object members => object (stripMembers members)
  | leaf => leaf

/-- The items other than `null`, each without the nulls below its root. -/
def stripItems : List Json → List Json
  | [] => []
  | item :: rest => if item.isNull then stripItems rest else stripNulls item :: stripItems rest

/-- The members other than `null`, each without the nulls below its root. -/
def stripMembers : List (String × Json) → List (String × Json)
  | [] => []
  | (key, value) :: rest =>
    if value.isNull then stripMembers rest else (key, stripNulls value) :: stripMembers rest

end

end SchemaDialogue.Json
