import SchemaDialogue.Json.Draft

/-!
# Reading JSON

A draft is read strictly, which yields the value or the first fault of the text, or laxly, which
only finds the first fault of a value that nobody asks for. A strict reading bounds the nesting of
arrays and objects; a lax one does not.

A document is one value with nothing but blanks after it. `Draft.ofJson` turns a value back into a
draft that stands nowhere, so that values and texts are read by the same readers.
-/

namespace SchemaDialogue

namespace Draft

/-- How many levels may still be opened, plus one; without a number there is no bound. -/
abbrev Nesting := Option Nat

/-- The nesting allowed at the front of a text. -/
def textNesting : Nesting := some 128

def wordValue : Word → Json
  | .null => .null
  | .true => .bool true
  | .false => .bool false

/-- The value of a token that should be a leaf. -/
def leafValue (t : Token) : Except Fault Json :=
  match t.kind with
  | .word w => .ok (wordValue w)
  | .numeral value => value.map .number
  | .text value => value.map .string
  | .broken _ strict _ => .error strict
  | _ => .error ⟨.expectedValue, t.peeked⟩

def keyText (t : Token) : Except Fault String :=
  match t.kind with
  | .text value => value
  | .broken _ strict _ => .error strict
  | _ => .error ⟨.keyNotString, t.peeked⟩

/-- An opening token may open one more level. -/
def descend (opening : Token) : Nesting → Except Fault Nesting
  | none => .ok none
  | some depth =>
    if depth ≤ 1 then .error ⟨.nestingTooDeep, opening.peeked⟩ else .ok (some (depth - 1))

/-- A listing that is read to its end must be closed. -/
def checkEnding : Ending → Except Fault Unit
  | .closed _ => .ok ()
  | .stuck wanted before => .error (wanted.strictFault before)

mutual

/-- The strict reading of a value, `nesting` bounding its nesting. -/
def value (nesting : Nesting) : Draft → Except Fault Json
  | absent p => .error ⟨.endInValue, p⟩
  | barred fault => .error fault
  | leaf t _ => leafValue t
  | array t items ending _ => do
    let deeper ← descend t nesting
    let values ← itemValues deeper items
    -- A fault among the items comes before one at their end.
    checkEnding ending
    pure (.array values)
  | object t members ending _ => do
    let deeper ← descend t nesting
    let values ← memberValues deeper members
    checkEnding ending
    pure (.object (Entries.ofList values))

/-- The strict reading of items, up to the first fault. -/
def itemValues (nesting : Nesting) : List Draft → Except Fault (List Json)
  | [] => .ok []
  | d :: rest => do
    let v ← d.value nesting
    let vs ← itemValues nesting rest
    pure (v :: vs)

/-- The strict reading of members, up to the first fault. -/
def memberValues (nesting : Nesting) : List (DraftKey × Draft) → Except Fault (List (String × Json))
  | [] => .ok []
  | (k, d) :: rest => do
    let name ← keyText k.token
    let v ← d.value nesting
    let vs ← memberValues nesting rest
    pure ((name, v) :: vs)

end

/-- The fault of a lax reading of a token that should be a leaf. -/
def laxLeaf (t : Token) : Except Fault Unit :=
  match t.kind with
  | .word _ | .numeral _ | .text _ => .ok ()
  | .broken _ _ lax => .error lax
  | _ => .error ⟨.expectedValue, t.peeked⟩

/-- The fault of a lax reading at the end of a listing. -/
def laxEnding : Ending → Except Fault Unit
  | .closed _ => .ok ()
  | .stuck wanted before => .error (wanted.laxFault before)

mutual

/-- The lax reading of a value. -/
def skip : Draft → Except Fault Unit
  | absent p => .error ⟨.endInValue, p⟩
  | barred fault => .error fault
  | leaf t _ => laxLeaf t
  | array _ items ending _ => do
    skipItems items
    laxEnding ending
  | object _ members ending _ => do
    skipMembers members
    laxEnding ending

def skipItems : List Draft → Except Fault Unit
  | [] => .ok ()
  | d :: rest => do
    d.skip
    skipItems rest

def skipMembers : List (DraftKey × Draft) → Except Fault Unit
  | [] => .ok ()
  | (_, d) :: rest => do
    d.skip
    skipMembers rest

end

/-! ## Drafts of values -/

/-- A token of a value that stands in no text. -/
def placeless (kind : TokenKind) : Token := ⟨kind, .start, .start, .start⟩

/-- The end of no text. -/
def nowhere : Stream := .finish .start

/-- A leaf of a value that stands in no text. -/
def placelessLeaf (kind : TokenKind) : Draft := leaf (placeless kind) nowhere

mutual

/-- The draft of a value, standing in no text. -/
def ofJson : Json → Draft
  | .null => placelessLeaf (.word .null)
  | .bool true => placelessLeaf (.word .true)
  | .bool false => placelessLeaf (.word .false)
  | .number n => placelessLeaf (.numeral (.ok n))
  | .string s => placelessLeaf (.text (.ok s))
  | .array items =>
    array (placeless .beginArray) (ofItems items) (.closed (placeless .endArray)) nowhere
  | .object members =>
    object (placeless .beginObject) (ofMembers members) (.closed (placeless .endObject)) nowhere

def ofItems : List Json → List Draft
  | [] => []
  | v :: rest => ofJson v :: ofItems rest

def ofMembers : List (String × Json) → List (DraftKey × Draft)
  | [] => []
  | (k, v) :: rest => (⟨placeless (.text (.ok k)), nowhere⟩, ofJson v) :: ofMembers rest

end

end Draft

namespace Json

/-- Nothing but blanks may follow a document. -/
def checkFinished : Stream → Except Fault Unit
  | .finish _ => .ok ()
  | .token t _ => .error ⟨.trailingCharacters, t.peeked⟩

/-- The value of a document given as symbols. -/
def parseSymbols (text : List Symbol) : Except Fault Json := do
  let draft := Draft.ofSymbols text
  let v ← draft.value Draft.textNesting
  checkFinished draft.after
  pure v

/-- The value of a document. -/
def parse (text : String) : Except Fault Json := parseSymbols (Symbol.ofString text)

end Json

end SchemaDialogue
