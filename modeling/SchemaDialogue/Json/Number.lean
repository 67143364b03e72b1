import SchemaDialogue.Binary64.Shortest

/-!
# JSON numbers

A number is an integer that fits a signed or an unsigned word of 64 bits, or a double. The two kinds
never mix: `1` is an integer and `1.0` is not. Where numbers of both kinds meet, they are compared
as doubles.
-/

namespace SchemaDialogue

/-- An integer from -2⁶³ to 2⁶⁴ - 1. -/
structure WideInt where
  value : Int
  lower : -2 ^ 63 ≤ value := by decide
  upper : value < 2 ^ 64 := by decide
deriving DecidableEq

inductive Number where
  | integer (n : WideInt)
  | real (x : Binary64)
deriving DecidableEq

namespace WideInt

/-- The integer of that value, when it is in range. -/
def ofInt? (n : Int) : Option WideInt :=
  if h : -2 ^ 63 ≤ n ∧ n < 2 ^ 64 then some ⟨n, h.1, h.2⟩ else none

end WideInt

namespace Number

/-- The integer number of that value, when it is in range. -/
def ofInt? (n : Int) : Option Number := (WideInt.ofInt? n).map .integer

def zero : Number := .integer ⟨0, by decide, by decide⟩

def isInteger : Number → Bool
  | integer _ => true
  | real _ => false

/-- The double nearest to a number. -/
def toBinary64? : Number → Option Binary64
  | integer n => Binary64.ofInt? n.value
  | real x => some x

/-- The two numbers round to the same double. -/
def matchesValue (a b : Number) : Bool :=
  match a.toBinary64?, b.toBinary64? with
  | some x, some y => x.numEq y
  | _, _ => false

/-- The two numbers are of one kind and of one value. -/
def same : Number → Number → Bool
  | integer a, integer b => a.value == b.value
  | real x, real y => x.numEq y
  | _, _ => false

/-- Doubles are written out in full from 10⁻⁵ up to 10¹⁶ and with a signed exponent elsewhere. -/
def realLayout : DecimalLayout := ⟨-5, 16, "e+", "e-", false⟩

def text : Number → String
  | integer n => toString n.value
  | real x => x.write realLayout

end Number

end SchemaDialogue
