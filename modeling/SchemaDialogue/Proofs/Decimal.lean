import SchemaDialogue.Json.Pointer

/-!
# Numbers written in decimal digits

A natural number that is written in digits is read back, and only zero is written with a zero in
front. So an array is gone into by the numbers that a path gives its items.
-/

namespace SchemaDialogue

namespace Text

/-- Reading digits goes on from what has been read. -/
theorem foldl_digits_eq (digits : List Char) (init : Nat) :
    digits.foldl (fun n c => n * 10 + (c.toNat - '0'.toNat)) init =
      Nat.ofDigitChars 10 digits init := by
  rw [Nat.ofDigitChars_eq_foldl]
  congr 1
  funext n c
  rw [Nat.mul_comm]

theorem digitsValue_toDigits (n : Nat) : digitsValue (Nat.toDigits 10 n) = n := by
  rw [digitsValue, foldl_digits_eq, Nat.ofDigitChars_ten_toDigits]

theorem isDigit_toDigits {n : Nat} {c : Char} (h : c ∈ Nat.toDigits 10 n) : c.isDigit = true :=
  Nat.isDigit_of_mem_toDigits (by decide) (Nat.le_refl 10) h

theorem isDigit_iff {c : Char} : c.isDigit = true ↔ 48 ≤ c.toNat ∧ c.toNat ≤ 57 := by
  rw [Char.isDigit, Bool.and_eq_true, decide_eq_true_eq, decide_eq_true_eq, ge_iff_le,
    UInt32.le_iff_toNat_le, UInt32.le_iff_toNat_le]
  exact Iff.rfl

/-- A positive number is not written with a zero in front. -/
theorem toDigits_eq_cons (n : Nat) (positive : 0 < n) :
    ∃ first rest, Nat.toDigits 10 n = first :: rest ∧ first ≠ '0' := by
  induction n using Nat.strongRecOn with
  | ind n ih =>
    rw [Nat.toDigits_eq_if (by decide)]
    split
    · rename_i small
      refine ⟨n.digitChar, [], rfl, fun zero => ?_⟩
      rw [Nat.digitChar_eq_zero] at zero
      omega
    · obtain ⟨first, rest, digits, nonzero⟩ := ih (n / 10) (by omega) (by omega)
      exact ⟨first, rest ++ [(n % 10).digitChar], by rw [digits, List.cons_append], nonzero⟩

theorem decimal?_toDigits (n : Nat) : decimal? (Nat.toDigits 10 n) = some n := by
  have nonempty : (Nat.toDigits 10 n).isEmpty = false := by
    rw [List.isEmpty_eq_false_iff]
    exact Nat.toDigits_ne_nil
  have digits : (Nat.toDigits 10 n).all Char.isDigit = true :=
    List.all_eq_true.mpr fun c => isDigit_toDigits
  rw [decimal?, nonempty, digits, digitsValue_toDigits]
  rfl

/-- Digits that write a number of 64 bits are read back, since no digit is a sign. -/
theorem word64?_toDigits {n : Nat} (small : n < 2 ^ 64) :
    word64? (Nat.toDigits 10 n) = some n := by
  have noPlus : dropPlus (Nat.toDigits 10 n) = Nat.toDigits 10 n := by
    unfold dropPlus
    split
    · rename_i rest digits
      have mem : '+' ∈ Nat.toDigits 10 n := digits ▸ .head _
      exact absurd (isDigit_toDigits mem) (by decide)
    · rfl
  rw [word64?, noPlus, decimal?_toDigits]
  exact if_pos small

/-- A negative integer is written with a sign in front of its digits. -/
theorem toList_toString_negSucc (n : Nat) :
    (toString (Int.negSucc n)).toList = '-' :: Nat.toDigits 10 (n + 1) := by
  show ("-" ++ Nat.repr (n + 1)).toList = _
  rw [String.toList_append, Nat.toList_repr]
  rfl

end Text

namespace Json

/-- The number of an item selects it. -/
theorem itemNumber?_toString (n : Nat) : itemNumber? (toString n) = some n := by
  have text : (toString n).toList = Nat.toDigits 10 n := Nat.toList_repr
  rw [itemNumber?, text]
  rcases Nat.eq_zero_or_pos n with rfl | positive
  · rfl
  · obtain ⟨first, rest, digits, nonzero⟩ := Text.toDigits_eq_cons n positive
    have read := Text.decimal?_toDigits n
    rw [digits] at read ⊢
    split
    · rename_i zero
      exact absurd (List.cons.inj zero).1 nonzero
    · rename_i zero
      exact absurd (List.cons.inj zero).1 nonzero
    · exact read

end Json

end SchemaDialogue
