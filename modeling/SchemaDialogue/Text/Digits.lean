import SchemaDialogue.Power

/-!
# Decimal digits

The natural number that decimal digits write.
-/

namespace SchemaDialogue.Text

/-- The number that a list of digits writes. -/
def digitsValue (digits : List Char) : Nat :=
  digits.foldl (fun n c => n * 10 + (c.toNat - '0'.toNat)) 0

/-- The number that a text writes, when it is digits and nothing else. -/
def decimal? (text : List Char) : Option Nat :=
  if !text.isEmpty && text.all Char.isDigit then some (digitsValue text) else none

/-- The text without a plus sign in front. -/
def dropPlus : List Char → List Char
  | '+' :: rest => rest
  | text => text

/-- The number below 2⁶⁴ that a text writes, perhaps with a plus sign. -/
def word64? (text : List Char) : Option Nat := do
  let n ← decimal? (dropPlus text)
  if n < 2 ^ 64 then pure n else none

end SchemaDialogue.Text
