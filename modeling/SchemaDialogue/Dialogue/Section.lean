import SchemaDialogue.Json.Print
import SchemaDialogue.Read.Choice

/-!
# Sections of a conversation

A prompt is a list of sections, each said by the system, the user or the assistant. A preamble is
what stands before the first request: sections, or a plain text that the user says.
-/

namespace SchemaDialogue

open Read

/-- Who says a section. -/
inductive Role where
  | system
  | user
  | assistant
deriving DecidableEq

structure Section where
  role : Role
  content : String
deriving DecidableEq

/-- What stands before the first request. -/
inductive Preamble where
  | text (content : String)
  | sections (list : List Section)

namespace Role

def name : Role → String
  | system => "system"
  | user => "user"
  | assistant => "assistant"

/-- The roles under their names. -/
def byName : List (String × Role) := [system, user, assistant].map fun r => (r.name, r)

def read : Reader Role := nameOf byName

end Role

namespace Section

def toJson (s : Section) : Json :=
  .object [("role", .string s.role.name), ("content", .string s.content)]

def form : RecordForm Section fun _ => True :=
  { expected := .record "PromptSection"
    fields := [
      field "role" .required Role.read fun v s => { s with role := v },
      field "content" .required Read.text fun v s => { s with content := v }]
    blank := ⟨.user, ""⟩ }

def read : Reader Section := record form

end Section

namespace Preamble

def toSections : Preamble → List Section
  | text content => [⟨.user, content⟩]
  | sections list => list

def read : Reader Preamble :=
  untagged "Preamble" [
    fun r d => (Read.text r d).map .text,
    fun r d => (sequence Section.read r d).map .sections]

def toJson : Preamble → Json
  | text content => .string content
  | sections list => .array (list.map Section.toJson)

end Preamble

end SchemaDialogue
