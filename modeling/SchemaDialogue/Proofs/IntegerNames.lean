import Mathlib.Tactic.ByContra
import SchemaDialogue.Conform.Check
import SchemaDialogue.Proofs.Scanning

/-!
# Names that are integers

The names of a map with integers as keys are read by another grammar than those of a map with
numbers as keys: a plus sign and zeros in front of further digits are allowed for integers only. So
a name that is an integer is a number too exactly if it has neither (`isSome_ofText?_iff`).
-/

namespace SchemaDialogue

/-- The characters of a name after a minus sign. -/
def unsigned (name : String) : List Char :=
  match name.toList with
  | '-' :: rest => rest
  | text => text

/-- Has the name neither a plus sign nor a zero in front of further characters? -/
def isPlainName (name : String) : Bool :=
  match unsigned name with
  | '+' :: _ => false
  | '0' :: more => more.isEmpty
  | _ => true

namespace Text

theorem decimal?_eq_some {text : List Char} {n : Nat} (h : decimal? text = some n) :
    ∃ first more, text = first :: more ∧ (∀ c ∈ first :: more, c.isDigit = true) ∧
      digitsValue text = n := by
  unfold decimal? at h
  split at h
  case isFalse => cases h
  case isTrue digits =>
    obtain ⟨filled, all⟩ := Bool.and_eq_true_iff.mp digits
    cases text with
    | nil => cases filled
    | cons first more =>
      exact ⟨first, more, rfl, List.all_eq_true.mp all, Option.some.inj h⟩

end Text

namespace Scan

/-- A number of 64 bits with a sign is the value of its digits. -/
theorem isSome_value? {negative : Bool} {digits : List Nat}
    (small : ofDigits 0 digits < 2 ^ 64)
    (signed : negative = true → ofDigits 0 digits ≤ 2 ^ 63) :
    (Numeral.value? ⟨negative, digits, [], none⟩).isSome = true := by
  have gathered := gather_eq small
  generalize ofDigits 0 digits = n at small signed gathered
  by_cases zero : negative = true ∧ n = 0
  · -- a zero with a minus sign is a double
    obtain ⟨rfl, rfl⟩ := zero
    have double : (Numeral.scale 0 0).isSome = true := by decide +kernel
    have parts : Numeral.parts ⟨true, digits, [], none⟩ = (0, 0) := by
      simp [Numeral.parts, gathered, Numeral.gather]
    simp [Numeral.value?, Numeral.magnitude?, parts, gathered, double]
  · obtain ⟨value, same⟩ : ∃ value : WideInt, value.value = if negative then -(n : Int) else n := by
      cases negative with
      | false => exact ⟨⟨n, by omega, by omega⟩, rfl⟩
      | true =>
        have := signed rfl
        exact ⟨⟨-n, by omega, by omega⟩, rfl⟩
    rw [value?_of_gather gathered same fun h none => zero ⟨h, none⟩]
    rfl

/-- Digits are a numeral unless they are a zero and further digits. -/
theorem numeral_digits_iff {first : Char} {more : List Char} {negative : Bool}
    (isDigit : ∀ c ∈ first :: more, c.isDigit = true)
    (small : Text.digitsValue (first :: more) < 2 ^ 64)
    (signed : negative = true → Text.digitsValue (first :: more) ≤ 2 ^ 63) :
    (∃ value q, numeral .start negative ((first :: more).map .char) = .closed (.ok value) q []) ↔
      (first = '0' → more = []) := by
  have values : ofDigits 0 ((first :: more).map fun c => c.toNat - '0'.toNat) =
      Text.digitsValue (first :: more) := by
    rw [ofDigits, List.foldl_map]
    rfl
  constructor
  · rintro ⟨value, q, read⟩ rfl
    by_contra further
    have rest := (List.forall_mem_cons.mp isDigit).2
    obtain ⟨strict, lax, cut⟩ := numeral_leadingZero rest further negative .start stops_nil
    rw [List.append_nil, read] at cut
    cases cut
  · intro leading
    obtain ⟨q, read⟩ := numeral_digits isDigit leading negative .start stops_nil
    rw [← values] at small signed
    obtain ⟨value, number⟩ := Option.isSome_iff_exists.mp (isSome_value? small signed)
    refine ⟨value, q, ?_⟩
    rw [List.append_nil] at read
    rw [read, numeralValue, number]

end Scan

namespace Number

theorem isSome_numeral_iff {negative : Bool} {text : List Symbol} :
    (match Scan.numeral .start negative text with
      | .closed (.ok value) _ [] => some value
      | _ => none).isSome = true ↔
      ∃ value q, Scan.numeral .start negative text = .closed (.ok value) q [] := by
  split
  · rename_i value q read
    exact iff_of_true rfl ⟨value, q, read⟩
  · rename_i other
    exact iff_of_false Bool.false_ne_true fun ⟨value, q, read⟩ => other value q read

/-- A name with a minus sign is a number if the rest is a numeral up to its end. -/
theorem isSome_ofText?_minus {name : String} {rest : List Char}
    (chars : name.toList = '-' :: rest) : (ofText? name).isSome = true ↔
      ∃ value q, Scan.numeral .start true (rest.map .char) = .closed (.ok value) q [] := by
  rw [ofText?, Symbol.ofString, chars]
  exact isSome_numeral_iff

/-- A name without a minus sign is a number if it is a numeral up to its end. -/
theorem isSome_ofText?_cons {name : String} {first : Char} {more : List Char}
    (chars : name.toList = first :: more) (noMinus : first ≠ '-') :
    (ofText? name).isSome = true ↔
      ∃ value q, Scan.numeral .start false ((first :: more).map .char) =
        .closed (.ok value) q [] := by
  rw [ofText?, Symbol.ofString, chars, List.map_cons]
  dsimp only
  split
  · rename_i same
    exact absurd (Symbol.char.inj (List.cons.inj same).1) noMinus
  · exact isSome_numeral_iff

end Number

theorem isPlainName_iff {name : String} {first : Char} {more : List Char}
    (chars : unsigned name = first :: more) :
    isPlainName name = true ↔ first ≠ '+' ∧ (first = '0' → more = []) := by
  rw [isPlainName, chars]
  split <;> simp_all

/-- A name that is an integer: digits, after a minus sign or perhaps a plus sign. -/
theorem isIntegerKey_cases {name : String} (h : isIntegerKey name = true) :
    ∃ first more, (∀ c ∈ first :: more, c.isDigit = true) ∧
      (name.toList = '-' :: first :: more ∧ Text.digitsValue (first :: more) ≤ 2 ^ 63 ∨
        (name.toList = first :: more ∨ name.toList = '+' :: first :: more) ∧
          Text.digitsValue (first :: more) < 2 ^ 64) := by
  unfold isIntegerKey at h
  split at h
  · rename_i rest chars
    split at h
    · rename_i n digits
      obtain ⟨first, more, rfl, isDigit, rfl⟩ := Text.decimal?_eq_some digits
      exact ⟨first, more, isDigit, .inl ⟨chars, of_decide_eq_true h⟩⟩
    · cases h
  · obtain ⟨n, word⟩ := Option.isSome_iff_exists.mp h
    simp only [Text.word64?, Option.bind_eq_bind, Option.bind_eq_some_iff] at word
    obtain ⟨m, digits, small⟩ := word
    obtain ⟨first, more, chars, isDigit, rfl⟩ := Text.decimal?_eq_some digits
    refine ⟨first, more, isDigit, .inr ⟨?_, ?_⟩⟩
    · unfold Text.dropPlus at chars
      split at chars
      · rename_i rest plus
        exact .inr (chars ▸ plus)
      · exact .inl chars
    · by_contra large
      rw [chars, if_neg large] at small
      cases small

/-- A name that is an integer is a number too exactly if it is plain. -/
theorem isSome_ofText?_iff {name : String} (h : isIntegerKey name = true) :
    (Number.ofText? name).isSome = true ↔ isPlainName name = true := by
  obtain ⟨first, more, isDigit, chars⟩ := isIntegerKey_cases h
  have noSign : first ≠ '+' ∧ first ≠ '-' := by
    constructor <;> rintro rfl <;> exact absurd (isDigit _ (.head _)) (by decide)
  rcases chars with ⟨minus, small⟩ | ⟨digits | plus, small⟩
  · have text : unsigned name = first :: more := by simp [unsigned, minus]
    rw [Number.isSome_ofText?_minus minus,
      Scan.numeral_digits_iff isDigit (by omega) fun _ => small, isPlainName_iff text]
    exact (and_iff_right noSign.1).symm
  · have text : unsigned name = first :: more := by
      rw [unsigned, digits]
      split
      · rename_i same
        exact absurd (List.cons.inj same).1 noSign.2
      · rfl
    rw [Number.isSome_ofText?_cons digits noSign.2, isPlainName_iff text,
      Scan.numeral_digits_iff isDigit small fun minus : false = true => nomatch minus]
    exact (and_iff_right noSign.1).symm
  · have text : unsigned name = '+' :: first :: more := by simp [unsigned, plus]
    rw [Number.isSome_ofText?_cons plus (by decide), isPlainName_iff text]
    refine iff_of_false ?_ fun both => both.1 rfl
    rintro ⟨value, q, read⟩
    cases read

end SchemaDialogue
