import SchemaDialogue.Binary64.Basic

/-!
# The shortest decimal of a double

The shortest decimal of a magnitude has the fewest digits among the decimals that round to it. For
one, two, three and more digits the two neighbours of the magnitude on that decimal grid are tested
against the interval of reals that round to it; the first grid with a hit decides, and of two hits
the nearer one is taken. Seventeen digits always suffice.

A layout then says how digits and exponent are written: which exponents are written out in full,
how the mark of a positive exponent looks, and where a tie between two shortest decimals goes.
-/

namespace SchemaDialogue

/-- A positive decimal in scientific form: `d.ddd × 10^exponent`, first digit not zero. -/
structure Decimal where
  digits : List Char
  exponent : Int
deriving DecidableEq

/-- How a format writes a decimal. -/
structure DecimalLayout where
  /-- The least exponent that is written out with leading zeros. -/
  lowest : Int
  /-- The first exponent that is no longer written out in full. -/
  limit : Int
  /-- The text between digits and a positive exponent. -/
  positiveMark : String
  /-- The text between digits and the magnitude of a negative exponent. -/
  negativeMark : String
  /-- A tie between two shortest decimals goes to the upper one instead of the even one. -/
  tieUp : Bool

namespace Decimal

/-- Zeros in a row. -/
def zeros (n : Nat) : List Char := List.replicate n '0'

/-- The digits with those after the first `whole` places behind a point; a whole number ends in
`.0`. -/
def pointed (digits : List Char) (whole : Nat) : List Char :=
  if digits.length ≤ whole then digits ++ zeros (whole - digits.length) ++ ['.', '0']
  else digits.take whole ++ '.' :: digits.drop whole

/-- The text of a decimal in a layout. -/
def write (layout : DecimalLayout) (d : Decimal) : String :=
  if layout.lowest ≤ d.exponent ∧ d.exponent < layout.limit then
    if d.exponent < 0 then
      String.ofList ('0' :: '.' :: zeros (d.exponent.natAbs - 1) ++ d.digits)
    else String.ofList (pointed d.digits (d.exponent.toNat + 1))
  else
    let mantissa :=
      match d.digits with
      | [] => []
      | [first] => [first]
      | first :: more => first :: '.' :: more
    let mark := if d.exponent < 0 then layout.negativeMark else layout.positiveMark
    String.ofList mantissa ++ mark ++ toString d.exponent.natAbs

end Decimal

namespace Binary64

/-- The exponent of the first decimal digit of a magnitude: the greatest `e` with 10ᵉ not above it.
The least magnitude is above 10⁻⁴⁰⁰, so the scaled number has at least one digit. -/
def leadingExponent (units : Nat) : Int :=
  ((Nat.toDigits 10 (units * 10 ^ 400 / 2 ^ 1074)).length : Int) - 401

/-- Does `candidate · 10^grid` round to the magnitude of `rank`? Compared in doubled units; the ends
of the interval belong to it when the rank is even. -/
def roundsTo (rank candidate : Nat) (grid : Int) : Bool :=
  let up := if grid < 0 then 1 else 10 ^ grid.toNat
  let down := if grid < 0 then 10 ^ grid.natAbs else 1
  let value := 2 * candidate * up * 2 ^ 1074
  let low := (unitsOfRank (rank - 1) + unitsOfRank rank) * down
  let high := (unitsOfRank rank + unitsOfRank (rank + 1)) * down
  if rank % 2 = 0 then low ≤ value && value ≤ high else low < value && value < high

/-- The shortest candidate with `count` digits, if one of that length rounds to the magnitude. -/
def candidate? (tieUp : Bool) (rank : Nat) (exponent : Int) (count : Nat) : Option (Nat × Int) :=
  let grid := exponent - count + 1
  let num := unitsOfRank rank * (if grid < 0 then 10 ^ grid.natAbs else 1)
  let den := 2 ^ 1074 * (if grid < 0 then 1 else 10 ^ grid.toNat)
  let lower := num / den
  let rest := 2 * (num % den)
  let upper := if num % den = 0 then lower else lower + 1
  -- `rest` is twice the distance from the lower neighbour, so that `den` is the middle.
  let nearUpper := den < rest || (rest == den && (tieUp || lower % 2 == 1))
  match roundsTo rank lower grid, roundsTo rank upper grid with
  | true, true => some (if nearUpper then upper else lower, grid)
  | true, false => some (lower, grid)
  | false, true => some (upper, grid)
  | false, false => none

/-- The shortest decimal of a magnitude that is not zero. -/
def shortest (tieUp : Bool) (rank : Nat) : Decimal :=
  let exponent := leadingExponent (unitsOfRank rank)
  let found := (List.range 17).findSome? fun n => candidate? tieUp rank exponent (n + 1)
  match found with
  | none => ⟨['0'], 0⟩
  | some (value, grid) =>
    let digits := Nat.toDigits 10 value
    let trimmed := (digits.reverse.dropWhile (· = '0')).reverse
    ⟨trimmed, grid + digits.length - 1⟩

/-- The text of a double in a layout; zero is `0.0`. -/
def write (layout : DecimalLayout) (x : Binary64) : String :=
  let sign := if x.negative then "-" else ""
  if x.rank = 0 then sign ++ "0.0"
  else sign ++ (shortest layout.tieUp x.rank).write layout

end Binary64

end SchemaDialogue
