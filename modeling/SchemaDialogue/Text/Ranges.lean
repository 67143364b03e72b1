/-!
# Sets of code points

A set of code points is given by the code points where its ranges start and end, in increasing
order. A code point is in the set when an odd number of them do not exceed it. Long tables come in
parts.
-/

namespace SchemaDialogue.Text

/-- How many of the bounds do not exceed the code point? -/
def boundsUpTo (bounds : List (List Nat)) (code : Nat) : Nat :=
  bounds.foldl (fun n part => n + part.countP (· ≤ code)) 0

/-- Is the code point in the set whose ranges these bounds start and end? -/
def inRanges (bounds : List (List Nat)) (code : Nat) : Bool := boundsUpTo bounds code % 2 = 1

end SchemaDialogue.Text
