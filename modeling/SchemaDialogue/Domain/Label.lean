import SchemaDialogue.Domain.Composition
import SchemaDialogue.Domain.Mapping
import SchemaDialogue.Domain.Traits

/-!
# Labels of domains

The labels of a domain stand between its dots. A label does not start with a mark, is composed, and
holds only characters that stand for themselves. An invisible joiner may only occur where it shows:
behind a mark of the class that silences a vowel, or, for one that keeps letters apart, between
letters that would join. When a domain has letters that run from right to left, no label mixes
directions.
-/

namespace SchemaDialogue.Domain

abbrev Label := List Char

namespace Label

def nonJoiner : Char := '\u200c'
def joiner : Char := '\u200d'

/-- The class of the marks that silence a vowel. -/
def silencing : Nat := 9

/-- Do the characters at the end of a text join with what follows it? -/
def opensJoin (reversed : List Char) : Bool :=
  (reversed.dropWhile isTransparent).head?.any joinsNext

/-- Do the characters at the front of a text join with what is before it? -/
def closesJoin (text : List Char) : Bool :=
  (text.dropWhile isTransparent).head?.any joinsPrevious

/-- Do all joiners show, given the reversed text before? -/
def joinersShow (before : List Char) : List Char → Bool
  | [] => true
  | c :: rest =>
    let silenced := before.head?.any fun b => Marks.classOf b.toNat = silencing
    (if c = joiner then silenced
      else if c = nonJoiner then silenced || (opensJoin before && closesJoin rest)
      else true) && joinersShow (c :: before) rest

/-- Is this a label whose characters may stand in a domain? -/
def isValid (label : Label) : Bool :=
  !label.head?.any isMark && label.all isPlain && joinersShow [] label && composed label = label

/-- Directions that may occur in a label that runs from right to left. -/
def fitsRightToLeft (d : Direction) : Bool := d ≠ .leftToRight

/-- Directions that may occur in a label that runs from left to right. -/
def fitsLeftToRight (d : Direction) : Bool := d ≠ .rightToLeft ∧ d ≠ .ownNumber

/-- Does a label of these directions run in one direction only? It has to start with a letter, and
marks apart it has to end with a letter or a digit. -/
def runsOneWay (directions : List Direction) : Bool :=
  let last := (directions.reverse.dropWhile (· = .attached)).head?
  match directions.head? with
  | none => true
  | some .rightToLeft =>
    directions.all fitsRightToLeft &&
      [some .rightToLeft, some .number, some .ownNumber].contains last &&
      !(directions.contains .number && directions.contains .ownNumber)
  | some .leftToRight =>
    directions.all fitsLeftToRight && [some .leftToRight, some .number].contains last
  | some _ => false

end Label

/-- Does a domain of these labels have characters that run from right to left? -/
def hasRightToLeft (labels : List Label) : Bool :=
  labels.any fun label =>
    label.any fun c => directionOf c = .rightToLeft || directionOf c = .ownNumber

end SchemaDialogue.Domain
