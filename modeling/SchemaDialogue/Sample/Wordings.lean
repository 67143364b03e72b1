import SchemaDialogue.Dialogue.Wording

/-!
# Sample wordings

Wordings that replace one of the two standard prompts.
-/

namespace SchemaDialogue.Sample

/-- A short request. -/
def terse : Wording where
  request schema request :=
    "Answer as a " ++ schema.typeName ++ " object.\n" ++ schema.text ++ "\nRequest: " ++ request ++
      "\n"
  repair := Wording.standard.repair

/-- A short repair. -/
def nagging : Wording where
  request := Wording.standard.request
  repair schema failure := "Not a " ++ schema.typeName ++ ": " ++ failure

end SchemaDialogue.Sample
