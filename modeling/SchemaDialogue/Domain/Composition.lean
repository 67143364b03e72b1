import SchemaDialogue.Domain.Marks

/-!
# Composed texts

One text can be written with composed characters or with marks of their own. The composed form is
found by taking all characters apart, putting the marks between two other characters in the order
of their classes, and composing what can be composed, from left to right. Syllables of Hangul are
composed by arithmetic.
-/

namespace SchemaDialogue.Domain

namespace Hangul

def firstSyllable : Nat := 0xAC00
def firstLead : Nat := 0x1100
def firstVowel : Nat := 0x1161
/-- The code point before the first that can end a syllable. -/
def noTail : Nat := 0x11A7
def leads : Nat := 19
def vowels : Nat := 21
/-- The ways for a syllable to end, counting the open one. -/
def tails : Nat := 28

/-- The two parts of a syllable. -/
def pair? (code : Nat) : Option (Nat × Nat) :=
  let index := code - firstSyllable
  if code < firstSyllable ∨ leads * vowels * tails ≤ index then none
  else if index % tails = 0 then
    some (firstLead + index / tails / vowels, firstVowel + index / tails % vowels)
  else some (code - index % tails, noTail + index % tails)

/-- The syllable of two parts. -/
def composed? (first second : Nat) : Option Nat :=
  if firstLead ≤ first ∧ first < firstLead + leads ∧
      firstVowel ≤ second ∧ second < firstVowel + vowels then
    some (firstSyllable + ((first - firstLead) * vowels + (second - firstVowel)) * tails)
  else if firstSyllable ≤ first ∧ first < firstSyllable + leads * vowels * tails ∧
      (first - firstSyllable) % tails = 0 ∧ noTail < second ∧ second < noTail + tails then
    some (first + (second - noTail))
  else none

end Hangul

namespace Composition

/-- No character has more parts one after the other than this. -/
def greatestDepth : Nat := 4

/-- The pair that a code point is made of. -/
def pair? (code : Nat) : Option (Nat × Nat) := (Hangul.pair? code).or (Marks.pair? code)

/-- The code point that a pair composes. -/
def composed? (first second : Nat) : Option Nat :=
  (Hangul.composed? first second).or (Marks.composed? first second)

/-- The parts of a code point, taken apart to a depth. -/
def parts : Nat → Nat → List Nat
  | 0, code => [code]
  | depth + 1, code =>
    match pair? code with
    | some (first, second) => parts depth first ++ [second]
    | none => [code]

/-- Put a code point before a text whose marks are in order. -/
def place (code : Nat) : List Nat → List Nat
  | [] => [code]
  | next :: rest =>
    -- Marks of one class keep their order.
    if 0 < Marks.classOf next ∧ Marks.classOf next < Marks.classOf code then
      next :: place code rest
    else code :: next :: rest

/-- Compose what follows a character and marks that do not compose with it, the last one first. -/
def compose (first : Nat) (marks : List Nat) : List Nat → List Nat
  | [] => first :: marks.reverse
  | code :: rest =>
    -- A mark of the same or a higher class in between keeps the two apart.
    let blocked := marks.head?.any fun mark => Marks.classOf code ≤ Marks.classOf mark
    match if blocked then none else composed? first code with
    | some whole => compose whole marks rest
    | none =>
      if Marks.classOf code = 0 then first :: (marks.reverse ++ compose code [] rest)
      else compose first (code :: marks) rest

/-- Compose a text; marks at its front stay alone. -/
def composeAll : List Nat → List Nat
  | [] => []
  | code :: rest =>
    if Marks.classOf code = 0 then compose code [] rest else code :: composeAll rest

end Composition

/-- The composed form of a text. -/
def composed (text : List Char) : List Char :=
  let codes := text.flatMap fun c => Composition.parts Composition.greatestDepth c.toNat
  (Composition.composeAll (codes.foldr Composition.place [])).map Char.ofNat

end SchemaDialogue.Domain
