import SchemaDialogue.Json.Parse
import SchemaDialogue.Read.Mismatch

/-!
# Failures of reading a described type

Reading stops at the first failure: a fault of the text, or a mismatch with its path. A mismatch
found in a text also has a place, but often not at once. A mismatch that is noticed after a value
keeps the tokens after that value, and the innermost enclosing array or object settles the place:
it is found after the closing bracket, or before the next item.

What is read comes from one of four sources, which differ in a few allowances: a text, a value, and
the buffered members of a tagged or an untagged type.
-/

namespace SchemaDialogue

/-- Where the draft that is read comes from. -/
inductive Source where
  | text
  | value
  /-- The members of a tagged type, kept until its tag is known. -/
  | buffered
  /-- A value kept while the alternatives of an untagged type are tried. -/
  | shared
deriving DecidableEq

/-- How a draft is read: its source, and how deep arrays and objects may still nest. -/
structure Reading where
  source : Source
  nesting : Draft.Nesting

/-- One step of the path to a mismatch. -/
inductive PathStep where
  | key (name : String)
  | index (n : Nat)
deriving DecidableEq

/-- Where a mismatch stands in a text. -/
inductive Anchor where
  | nowhere
  | after (rest : Stream)
  | place (p : Place)

/-- Why a type could not be read. -/
inductive Failure where
  | fault (f : Fault)
  | mismatch (path : List PathStep) (cause : Mismatch) (anchor : Anchor)

abbrev Outcome := Except Failure

namespace PathStep

/-- The text of a path that has been started: names after dots, indices in brackets. -/
def continued : List PathStep → String
  | [] => ""
  | key name :: rest => "." ++ name ++ continued rest
  | index n :: rest => "[" ++ toString n ++ "]" ++ continued rest

/-- The text of a path; the root is a dot. -/
def display : List PathStep → String
  | [] => "."
  | key name :: rest => name ++ continued rest
  | index n :: rest => "[" ++ toString n ++ "]" ++ continued rest

end PathStep

namespace Stream

/-- The place that an array gives to a mismatch after which these tokens follow. -/
def placeInArray : Stream → Place
  | finish p => p
  | token ⟨.endArray, _, _, stop⟩ _ => stop
  | token ⟨.comma, _, _, _⟩ rest => rest.start
  | token t _ => t.start

/-- The place that an object gives to a mismatch after which these tokens follow. -/
def placeInObject : Stream → Place
  | finish p => p
  | token ⟨.endObject, _, _, stop⟩ _ => stop
  | token t _ => t.start

end Stream

namespace Failure

/-- The failure seen from one step further out. -/
def within (step : PathStep) : Failure → Failure
  | fault f => fault f
  | mismatch path cause anchor => mismatch (step :: path) cause anchor

/-- Give a mismatch without a place the one that the tokens after it determine. -/
def settle (place : Stream → Place) : Failure → Failure
  | mismatch path cause (.after rest) => mismatch path cause (.place (place rest))
  | other => other

/-- Forget path and place of a mismatch, which now stands before `rest`. -/
def detach (anchor : Anchor) : Failure → Failure
  | fault f => fault f
  | mismatch _ cause _ => mismatch [] cause anchor

/-- The wording of a mismatch and its place. -/
def mismatchMessage (cause : Mismatch) : Anchor → String
  | .place p => cause.message ++ p.suffix
  | _ => cause.message

def message : Failure → String
  | fault f => "Failed to parse JSON: " ++ f.message
  | mismatch path cause anchor =>
    "at JSON path " ++ PathStep.display path ++ " → " ++ mismatchMessage cause anchor

end Failure

namespace Outcome

/-- An outcome whose failure is seen from one step further out. -/
def within {α : Type} (step : PathStep) (r : Outcome α) : Outcome α := r.mapError (·.within step)

/-- An outcome whose mismatch is settled. -/
def settle {α : Type} (place : Stream → Place) (r : Outcome α) : Outcome α :=
  r.mapError (·.settle place)

/-- An outcome of reading the text itself. -/
def ofFault {α : Type} (r : Except Fault α) : Outcome α := r.mapError .fault

end Outcome

namespace Reading

/-- Reading from the front of a text. -/
def ofText : Reading := ⟨.text, Draft.textNesting⟩

def ofValue : Reading := ⟨.value, none⟩

def buffered : Reading := ⟨.buffered, none⟩

/-- Reading a value that other alternatives may read too. -/
def shared : Reading := ⟨.shared, none⟩

/-- A mismatch noticed before the tokens `rest`. -/
def failAfter {α : Type} (r : Reading) (rest : Stream) (cause : Mismatch) : Outcome α :=
  .error (.mismatch [] cause (if r.source = .text then .after rest else .nowhere))

/-- A mismatch noticed at a place. -/
def failAt {α : Type} (r : Reading) (p : Place) (cause : Mismatch) : Outcome α :=
  .error (.mismatch [] cause (if r.source = .text then .place p else .nowhere))

/-- Reading one level further in. -/
def descend (r : Reading) (opening : Token) : Outcome Reading :=
  (Outcome.ofFault (Draft.descend opening r.nesting)).map fun nesting => { r with nesting }

end Reading

end SchemaDialogue
