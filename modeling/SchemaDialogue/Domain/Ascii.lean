import SchemaDialogue.Domain.Label
import SchemaDialogue.Domain.Punycode

/-!
# Domains in ASCII

A domain is looked up by its ASCII form: its characters are mapped and composed, and each label that
still has others than ASCII is encoded behind a tag. A label that has the tag already stands for
what it encodes, which must be a label that needs it.
-/

namespace SchemaDialogue.Domain

/-- The tag of encoded labels. -/
def encodedTag : List Char := "xn--".toList

/-- Is the text ASCII? -/
def isAscii (text : List Char) : Bool := text.all (·.toNat < 0x80)

/-- The parts of a text between dots; at least one. -/
def splitDots : List Char → List (List Char)
  | [] => [[]]
  | c :: rest =>
    match splitDots rest with
    | [] => [[c]]
    | label :: labels => if c = '.' then [] :: label :: labels else (c :: label) :: labels

/-- The label that a mapped label stands for. -/
def Label.decoded? (label : Label) : Option Label :=
  if encodedTag.isPrefixOf label then do
    if !isAscii label then none
    let meant ← Punycode.decode? (label.drop encodedTag.length)
    -- A label is encoded only where it has to be, and only once.
    if isAscii meant ∨ encodedTag.isPrefixOf meant then none else pure meant
  else some label

/-- The ASCII form of a label. -/
def Label.ascii (label : Label) : List Char :=
  if isAscii label then label else encodedTag ++ Punycode.encode label

/-- The ASCII form of a domain, unless it is none. -/
def ascii? (text : List Char) : Option (List Char) := do
  let mapped ← text.mapM mapped?
  let labels ← (splitDots (composed mapped.flatten)).mapM Label.decoded?
  if !labels.all Label.isValid then none
  else if hasRightToLeft labels && !labels.all fun l => Label.runsOneWay (l.map directionOf) then
    none
  else pure (['.'].intercalate (labels.map Label.ascii))

end SchemaDialogue.Domain
