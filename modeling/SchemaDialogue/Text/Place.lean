/-!
# Places in a text

A place is where a reader stands between two bytes of a text. Lines start at one; the column counts
the bytes since the last newline, so the place after a newline has column zero.
-/

namespace SchemaDialogue

/-- A line number and the count of bytes read on that line. -/
structure Place where
  line : Nat
  column : Nat
deriving DecidableEq, Repr

namespace Place

/-- The place before the first byte of a text. -/
def start : Place := ⟨1, 0⟩

/-- The place after `n` further bytes of the same line. -/
def forward (p : Place) (n : Nat) : Place := ⟨p.line, p.column + n⟩

/-- The place `n` bytes before on the same line. -/
def back (p : Place) (n : Nat) : Place := ⟨p.line, p.column - n⟩

/-- The place after one character: a newline opens a line, any other moves by its encoded size. -/
def past (p : Place) (c : Char) : Place :=
  if c = '\n' then ⟨p.line + 1, 0⟩ else p.forward c.utf8Size

/-- The wording that a failure found at this place ends with. -/
def suffix (p : Place) : String :=
  " at line " ++ toString p.line ++ " column " ++ toString p.column

end Place

end SchemaDialogue
