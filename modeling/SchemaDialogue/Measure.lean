/-!
# Lexicographic measures
-/

namespace SchemaDialogue

/-- A pair comes before another when its first part does not grow and its second part shrinks. -/
theorem lex_of_le {α : Type} {r : α → α → Prop} {a b : Nat} {c d : α} (first : a ≤ b)
    (second : r c d) : Prod.Lex (· < ·) r (a, c) (b, d) := by
  rcases Nat.lt_or_eq_of_le first with h | rfl
  · exact .left _ _ h
  · exact .right _ second

end SchemaDialogue
