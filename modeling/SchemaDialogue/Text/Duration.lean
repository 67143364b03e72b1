import SchemaDialogue.Binary64.Shortest

/-!
# Durations and doubles in diagnostics

Diagnostics show a duration in the largest unit that it fills: whole milliseconds below a second,
seconds with a fraction above, and nothing at all as `0ns`. Doubles are written out in full from
10⁻⁴ up to 10¹⁶.
-/

namespace SchemaDialogue.Text

/-- The text of a duration in milliseconds. -/
def duration (milliseconds : Nat) : String :=
  let seconds := milliseconds / 1000
  let rest := milliseconds % 1000
  if milliseconds = 0 then "0ns"
  else if seconds = 0 then toString rest ++ "ms"
  else if rest = 0 then toString seconds ++ "s"
  else
    let digits := (toString (1000 + rest)).toList.drop 1
    let trimmed := (digits.reverse.dropWhile (· = '0')).reverse
    toString seconds ++ "." ++ String.ofList trimmed ++ "s"

/-- How diagnostics write a double. -/
def doubleLayout : DecimalLayout := ⟨-4, 16, "e", "e-", true⟩

end SchemaDialogue.Text
