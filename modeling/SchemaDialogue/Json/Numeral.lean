import SchemaDialogue.Json.Number

/-!
# Numerals

A numeral is a number as written: sign, digits before and after the point, exponent. Its value is
found in three steps. Digits are gathered into one significand for as long as it fits 64 bits;
further digits of the whole part only raise the decimal exponent and further digits of the fraction
are dropped. The significand is rounded to a double. The double is multiplied or divided by one
power of ten, each time rounding again. So the value of a long numeral need not be the double
nearest to it.
-/

namespace SchemaDialogue

/-- The exponent part of a numeral. -/
structure NumeralExponent where
  negative : Bool
  digits : List Nat

/-- A number as written. An empty fraction means that no point is written. -/
structure Numeral where
  negative : Bool
  whole : List Nat
  fraction : List Nat
  exponent : Option NumeralExponent

namespace Numeral

/-- Gather digits while the result stays below `bound`; the second part counts those left out. -/
def gather (bound : Nat) (significand : Nat) : List Nat → Nat × Nat
  | [] => (significand, 0)
  | d :: rest =>
    if significand * 10 + d < bound then gather bound (significand * 10 + d) rest
    else (significand, rest.length + 1)

/-- The greatest power of ten that a double holds. -/
def greatestTenPow : Nat := 308

/-- Divide by a power of ten in steps that a double holds, until the result is zero. -/
def shrink (x : Binary64) (exponent : Nat) : Option Binary64 :=
  if exponent ≤ greatestTenPow then x.overTenPow? exponent
  else if x.rank = 0 then some x
  else (x.overTenPow? greatestTenPow).bind (shrink · (exponent - greatestTenPow))
termination_by exponent
decreasing_by simp [greatestTenPow] at *; omega

/-- A significand times a power of ten, when the result is finite. -/
def scale (significand : Nat) (exponent : Int) : Option Binary64 := do
  let x ← Binary64.ofNat? significand
  if 0 ≤ exponent then
    if exponent ≤ greatestTenPow then x.timesTenPow? exponent.toNat
    else if x.rank = 0 then some x
    else none
  else shrink x exponent.natAbs

/-- Exponents are gathered below this bound. -/
def exponentBound : Nat := 2 ^ 31

/-- The significand of the digits and the power of ten that belongs to it. -/
def parts (n : Numeral) : Nat × Int :=
  let (whole, surplus) := gather (2 ^ 64) 0 n.whole
  let (all, dropped) := gather (2 ^ 64) whole n.fraction
  (all, (surplus : Int) - ((n.fraction.length : Int) - dropped))

/-- The value as a double without its sign, when it is finite. -/
def magnitude? (n : Numeral) : Option Binary64 :=
  let (significand, base) := n.parts
  match n.exponent with
  | none => scale significand base
  | some e =>
    match gather exponentBound 0 e.digits with
    | (value, 0) => scale significand (if e.negative then base - value else base + value)
    -- An exponent beyond the bound settles the value without arithmetic.
    | _ => if significand = 0 || e.negative then some (.zero false) else none

/-- How many exponent digits are read before the numeral is known to be out of range: all of them,
unless the exponent itself grows too large. -/
def exponentDigitsRead (n : Numeral) : Nat :=
  match n.exponent with
  | none => 0
  | some e =>
    match gather exponentBound 0 e.digits with
    | (_, 0) => e.digits.length
    | (_, unread + 1) => e.digits.length - unread

/-- The value of a numeral: an integer when it is written as one, is in range and is not `-0`; a
double otherwise, unless it is out of range. -/
def value? (n : Numeral) : Option Number :=
  let real := n.magnitude?.map fun x => Number.real (x.withSign n.negative)
  match n.fraction, n.exponent, gather (2 ^ 64) 0 n.whole with
  | [], none, (significand, 0) =>
    if n.negative then
      -- Integers have no negative zero, so that `-0` is a double.
      if significand = 0 then real else (Number.ofInt? (-significand)).or real
    else (Number.ofInt? significand).or real
  | _, _, _ => real

end Numeral

end SchemaDialogue
