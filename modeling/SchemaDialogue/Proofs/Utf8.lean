import SchemaDialogue.Text.Symbol

/-!
# The bytes of a string

A string is read from the bytes that it is encoded in: each character is read from its one to four
bytes, and no byte is stray.
-/

namespace SchemaDialogue.Symbol

variable {a b : UInt8}

theorem isTail_iff : isTail b = true ↔ 128 ≤ b.toNat ∧ b.toNat ≤ 191 := by
  simp only [isTail, Bool.and_eq_true, decide_eq_true_eq, UInt8.le_iff_toNat_le]
  rfl

/-- A second byte of three neither spells a shorter form nor half of a surrogate pair. -/
theorem isSecondOfThree_iff : isSecondOfThree a b = true ↔
    isTail b = true ∧ (a.toNat ≠ 224 ∨ 160 ≤ b.toNat) ∧ (a.toNat ≠ 237 ∨ b.toNat ≤ 159) := by
  simp only [isSecondOfThree, Bool.and_eq_true, Bool.or_eq_true, bne_iff_ne, decide_eq_true_eq,
    UInt8.le_iff_toNat_le, ne_eq, ← UInt8.toNat_inj, and_assoc]
  rfl

/-- A second byte of four neither spells a shorter form nor a value beyond the last character. -/
theorem isSecondOfFour_iff : isSecondOfFour a b = true ↔
    isTail b = true ∧ (a.toNat ≠ 240 ∨ 144 ≤ b.toNat) ∧ (a.toNat ≠ 244 ∨ b.toNat ≤ 143) := by
  simp only [isSecondOfFour, Bool.and_eq_true, Bool.or_eq_true, bne_iff_ne, decide_eq_true_eq,
    UInt8.le_iff_toNat_le, ne_eq, ← UInt8.toNat_inj, and_assoc]
  rfl

theorem toNat_ofNat_of_lt {n : Nat} (small : n < 256) : (UInt8.ofNat n).toNat = n :=
  UInt8.toNat_ofNat_of_lt' small

theorem isTail_ofNat (n : Nat) : isTail (UInt8.ofNat (n % 64 + 128)) = true := by
  rw [isTail_iff, toNat_ofNat_of_lt (by omega)]
  omega

theorem tailBits_ofNat (n : Nat) : tailBits (UInt8.ofNat (n % 64 + 128)) = n % 64 := by
  rw [tailBits, toNat_ofNat_of_lt (by omega)]
  omega

/-! ## One character -/

theorem le_and_le_iff {low high : UInt8} :
    (decide (low ≤ a) && decide (a ≤ high)) = true ↔
      low.toNat ≤ a.toNat ∧ a.toNat ≤ high.toNat := by
  rw [Bool.and_eq_true, decide_eq_true_eq, decide_eq_true_eq, UInt8.le_iff_toNat_le,
    UInt8.le_iff_toNat_le]

section

variable {c d : UInt8} {rest : List UInt8}

theorem ofBytes_one (first : a.toNat < 128) :
    ofBytes (a :: rest) = .char (Char.ofNat a.toNat) :: ofBytes rest := by
  rw [ofBytes.eq_def]
  exact if_pos (UInt8.lt_iff_toNat_lt.mpr first)

theorem ofBytes_two (first : 194 ≤ a.toNat ∧ a.toNat ≤ 223) (tail : isTail b = true) :
    ofBytes (a :: b :: rest) =
      .char (Char.ofNat (a.toNat % 32 * 64 + tailBits b)) :: ofBytes rest := by
  have notOne : ¬a < 0x80 := fun one => by
    have : a.toNat < 128 := UInt8.lt_iff_toNat_lt.mp one
    omega
  have two : (decide (0xC2 ≤ a) && decide (a ≤ 0xDF)) = true := le_and_le_iff.mpr first
  rw [ofBytes.eq_def]
  dsimp only
  rw [if_neg notOne, if_pos two, if_pos tail]

theorem ofBytes_three (first : 224 ≤ a.toNat ∧ a.toNat ≤ 239) (second : isSecondOfThree a b = true)
    (tail : isTail c = true) :
    ofBytes (a :: b :: c :: rest) =
      .char (Char.ofNat (a.toNat % 16 * 4096 + tailBits b * 64 + tailBits c)) :: ofBytes rest := by
  have notOne : ¬a < 0x80 := fun one => by
    have : a.toNat < 128 := UInt8.lt_iff_toNat_lt.mp one
    omega
  have notTwo : ¬(decide (0xC2 ≤ a) && decide (a ≤ 0xDF)) = true := fun two => by
    have : 194 ≤ a.toNat ∧ a.toNat ≤ 223 := le_and_le_iff.mp two
    omega
  have three : (decide (0xE0 ≤ a) && decide (a ≤ 0xEF)) = true := le_and_le_iff.mpr first
  rw [ofBytes.eq_def]
  dsimp only
  rw [if_neg notOne, if_neg notTwo, if_pos three, second, tail]
  rfl

theorem ofBytes_four (first : 240 ≤ a.toNat ∧ a.toNat ≤ 244) (second : isSecondOfFour a b = true)
    (third : isTail c = true) (tail : isTail d = true) :
    ofBytes (a :: b :: c :: d :: rest) =
      .char (Char.ofNat (a.toNat % 8 * 262144 + tailBits b * 4096 + tailBits c * 64 +
        tailBits d)) :: ofBytes rest := by
  have notOne : ¬a < 0x80 := fun one => by
    have : a.toNat < 128 := UInt8.lt_iff_toNat_lt.mp one
    omega
  have notTwo : ¬(decide (0xC2 ≤ a) && decide (a ≤ 0xDF)) = true := fun two => by
    have : 194 ≤ a.toNat ∧ a.toNat ≤ 223 := le_and_le_iff.mp two
    omega
  have notThree : ¬(decide (0xE0 ≤ a) && decide (a ≤ 0xEF)) = true := fun three => by
    have : 224 ≤ a.toNat ∧ a.toNat ≤ 239 := le_and_le_iff.mp three
    omega
  have four : (decide (0xF0 ≤ a) && decide (a ≤ 0xF4)) = true := le_and_le_iff.mpr first
  rw [ofBytes.eq_def]
  dsimp only
  rw [if_neg notOne, if_neg notTwo, if_neg notThree, if_pos four, second, third, tail]
  rfl

end

/-- A character is read from its bytes. -/
theorem ofBytes_utf8EncodeChar (c : Char) (rest : List UInt8) :
    ofBytes (String.utf8EncodeChar c ++ rest) = .char c :: ofBytes rest := by
  have char : Char.ofNat c.val.toNat = c := Char.ofNat_toNat c
  have valid : c.val.toNat < 0xD800 ∨ 0xDFFF < c.val.toNat ∧ c.val.toNat < 0x110000 := c.valid
  unfold String.utf8EncodeChar
  generalize c.val.toNat = v at char valid
  dsimp only
  by_cases one : v ≤ 127
  · have first := toNat_ofNat_of_lt (n := v) (by omega)
    rw [if_pos one, List.singleton_append, ofBytes_one (by omega), first, char]
  by_cases two : v ≤ 2047
  · have first : (UInt8.ofNat (v / 64 % 32 + 192)).toNat = v / 64 % 32 + 192 :=
      toNat_ofNat_of_lt (by omega)
    have value : (v / 64 % 32 + 192) % 32 * 64 + v % 64 = v := by omega
    rw [if_neg one, if_pos two]
    show ofBytes (_ :: _ :: rest) = _
    rw [ofBytes_two (by omega) (isTail_ofNat v), first, tailBits_ofNat, value, char]
  by_cases three : v ≤ 65535
  · have first : (UInt8.ofNat (v / 4096 % 16 + 224)).toNat = v / 4096 % 16 + 224 :=
      toNat_ofNat_of_lt (by omega)
    have next : (UInt8.ofNat (v / 64 % 64 + 128)).toNat = v / 64 % 64 + 128 :=
      toNat_ofNat_of_lt (by omega)
    have second : isSecondOfThree (UInt8.ofNat (v / 4096 % 16 + 224))
        (UInt8.ofNat (v / 64 % 64 + 128)) = true :=
      isSecondOfThree_iff.mpr ⟨isTail_ofNat _, by omega, by omega⟩
    have value : (v / 4096 % 16 + 224) % 16 * 4096 + v / 64 % 64 * 64 + v % 64 = v := by omega
    rw [if_neg one, if_neg two, if_pos three]
    show ofBytes (_ :: _ :: _ :: rest) = _
    rw [ofBytes_three (by omega) second (isTail_ofNat v), first, tailBits_ofNat, tailBits_ofNat,
      value, char]
  · have first : (UInt8.ofNat (v / 262144 % 8 + 240)).toNat = v / 262144 % 8 + 240 :=
      toNat_ofNat_of_lt (by omega)
    have next : (UInt8.ofNat (v / 4096 % 64 + 128)).toNat = v / 4096 % 64 + 128 :=
      toNat_ofNat_of_lt (by omega)
    have second : isSecondOfFour (UInt8.ofNat (v / 262144 % 8 + 240))
        (UInt8.ofNat (v / 4096 % 64 + 128)) = true :=
      isSecondOfFour_iff.mpr ⟨isTail_ofNat _, by omega, by omega⟩
    have value : (v / 262144 % 8 + 240) % 8 * 262144 + v / 4096 % 64 * 4096 + v / 64 % 64 * 64 +
        v % 64 = v := by omega
    rw [if_neg one, if_neg two, if_neg three]
    show ofBytes (_ :: _ :: _ :: _ :: rest) = _
    rw [ofBytes_four (by omega) second (isTail_ofNat _) (isTail_ofNat v), first, tailBits_ofNat,
      tailBits_ofNat, tailBits_ofNat, value, char]

/-! ## Strings -/

/-- The list of the bytes of an array, gathered from an index on. -/
theorem toList_loop (bytes : ByteArray) (index : Nat) (reversed : List UInt8) :
    ByteArray.toList.loop bytes index reversed =
      reversed.reverse ++ bytes.data.toList.drop index := by
  fun_induction ByteArray.toList.loop bytes index reversed with
  | case1 index reversed more ih =>
    have inside : index < bytes.data.toList.length := by simpa using more
    rw [ih, List.drop_eq_getElem_cons inside]
    simp [ByteArray.get!, more]
  | case2 index reversed more =>
    rw [List.drop_eq_nil_of_le (by simpa using Nat.le_of_not_lt more), List.append_nil]

/-- The symbols that are read from the bytes of a string are its characters. -/
theorem ofBytes_toUTF8 (s : String) : ofBytes s.toUTF8.toList = ofString s := by
  have bytes : s.toUTF8.toList = s.toList.flatMap String.utf8EncodeChar := by
    rw [ByteArray.toList, toList_loop, String.toUTF8, ← String.utf8Encode_toList, List.utf8Encode,
      List.data_toByteArray]
    rfl
  rw [bytes, ofString]
  generalize s.toList = chars
  induction chars with
  | nil => rfl
  | cons c rest ih => rw [List.flatMap_cons, ofBytes_utf8EncodeChar, ih, List.map_cons]

end SchemaDialogue.Symbol
