import SchemaDialogue.Schema

/-!
# The wording of prompts

Two prompts are put into words: the request, which shows the declarations of the wanted type, and
the repair, which quotes what is wrong with an answer.
-/

namespace SchemaDialogue

/-- How prompts are put into words. -/
structure Wording where
  request : Schema → String → String
  repair : Schema → String → String

namespace Wording

def standard : Wording where
  request schema request :=
    "You are a service that translates user requests into JSON objects of type \"" ++
      schema.typeName ++ "\" according to the following TypeScript definitions:\n" ++
      "```\n" ++ schema.text ++ "```\n" ++
      "The following is a user request:\n" ++
      "'''\n" ++ request ++ "\n'''\n" ++
      "The following is the user request translated into a JSON object with 2 spaces of " ++
      "indentation and no properties with the value undefined:\n"
  repair _ failure :=
    "The above JSON object is invalid for the following reason:\n" ++
      "'''\n" ++ failure ++ "\n'''\n" ++
      "The following is a revised JSON object:\n"

end Wording

end SchemaDialogue
