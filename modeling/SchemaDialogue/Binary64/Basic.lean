import SchemaDialogue.Power

/-!
# Finite binary64 numbers

A finite double is a sign and a *rank*: its position among the finite magnitudes in increasing
order, which is also the low 63 bits of its encoding. Infinities and NaNs have no rank, so the type
holds exactly the numbers that a JSON text can denote.

Every magnitude is a whole number of units of 2⁻¹⁰⁷⁴. Arithmetic computes the exact quotient of two
natural numbers and rounds it once, to the nearest magnitude and to the even rank at a tie.
-/

namespace SchemaDialogue

/-- A finite double: its sign and the rank of its magnitude. -/
structure Binary64 where
  negative : Bool
  rank : Nat
  finite : rank < 2047 * 2 ^ 52 := by decide
deriving DecidableEq

namespace Binary64

/-- The quotient `num / den` rounded to a natural number, a tie going to the even neighbour. -/
def roundHalfEven (num den : Nat) : Nat :=
  let quotient := num / den
  let rest := 2 * (num % den)
  if rest < den then quotient
  else if den < rest then quotient + 1
  else quotient + quotient % 2

/-- The magnitude of a rank in units of 2⁻¹⁰⁷⁴. Ranks below 2⁵² are subnormal; above, each block of
2⁵² ranks doubles the spacing. -/
def unitsOfRank (rank : Nat) : Nat :=
  if rank < 2 ^ 52 then rank else (2 ^ 52 + rank % 2 ^ 52) * 2 ^ (rank / 2 ^ 52 - 1)

/-- The rank nearest to `num / den` units of 2⁻¹⁰⁷⁴. -/
def nearestRank (num den : Nat) : Nat :=
  -- The bits beyond the leading 53 are rounded away; each of them doubles the spacing.
  let shift := Nat.log2 (num / den) - 52
  shift * 2 ^ 52 + roundHalfEven num (den * 2 ^ shift)

/-- The double of that sign nearest to `num / den`, when it is finite. -/
def ofRatio? (negative : Bool) (num den : Nat) : Option Binary64 :=
  let rank := nearestRank (num * 2 ^ 1074) den
  if h : rank < 2047 * 2 ^ 52 then some ⟨negative, rank, h⟩ else none

def zero (negative : Bool) : Binary64 := ⟨negative, 0, by decide⟩

/-- The magnitude in units of 2⁻¹⁰⁷⁴. -/
def units (x : Binary64) : Nat := unitsOfRank x.rank

/-- The number of a sign and the magnitude of another number. -/
def withSign (x : Binary64) (negative : Bool) : Binary64 := { x with negative }

/-- The double nearest to a natural number, when it is finite. -/
def ofNat? (n : Nat) : Option Binary64 := ofRatio? false n 1

/-- The double nearest to an integer, when it is finite. -/
def ofInt? (n : Int) : Option Binary64 := ofRatio? (decide (n < 0)) n.natAbs 1

/-- The magnitude times a power of ten, when it is finite. -/
def timesTenPow? (x : Binary64) (exponent : Nat) : Option Binary64 := do
  let power ← ofNat? (10 ^ exponent)
  ofRatio? x.negative (x.units * power.units) (2 ^ 2148)

/-- The magnitude divided by a power of ten, when that power is finite. -/
def overTenPow? (x : Binary64) (exponent : Nat) : Option Binary64 := do
  let power ← ofNat? (10 ^ exponent)
  ofRatio? x.negative x.units power.units

/-- Equality as numbers: the two zeros are equal, all else is equal to itself alone. -/
def numEq (x y : Binary64) : Bool := x.rank == y.rank && (x.rank == 0 || x.negative == y.negative)

end Binary64

end SchemaDialogue
