import Mathlib.Data.List.Nodup
import Mathlib.Data.Set.Function
import SchemaDialogue.Interface.Render
import SchemaDialogue.Proofs.Decimal

/-!
# The words of declarations

A type is written as a word, perhaps with arguments, or else in quotes or brackets. The words are
the keywords, the names of types and type parameters, and numbers (`Head`). A word tells which of
these it is:

* the keywords are different from one another (`Keyword.text_injective`);
* names are plain: they can be written without quotes and are no keywords (`IsPlainName`);
* a number is made of digits, points, signs and exponent marks, and could not be written as a name
  (`Number.forall_mem_text`, `Number.isBareName_text`).
-/

namespace SchemaDialogue

/-! ## Characters -/

/-- May this character stand in a word? -/
def isWordPart (c : Char) : Bool := Declaration.isNamePart c || c ∈ ['.', '+', '-']

theorem isNamePart_of_isDigit {c : Char} (h : c.isDigit) : Declaration.isNamePart c := by
  rw [Declaration.isNamePart, h, Bool.or_true]

theorem isNameStart_of_isDigit {c : Char} (h : c.isDigit) : Declaration.isNameStart c = false := by
  have digits : ∀ code < 58, 48 ≤ code → Declaration.isNameStart (Char.ofNat code) = false := by
    decide
  have bounds := Text.isDigit_iff.mp h
  rw [← Char.ofNat_toNat c]
  exact digits c.toNat (Nat.lt_succ_of_le bounds.2) bounds.1

theorem isWordPart_of_isNamePart {c : Char} (h : Declaration.isNamePart c) : isWordPart c := by
  rw [isWordPart, h, Bool.true_or]

theorem isWordPart_of_isDigit {c : Char} (h : c.isDigit) : isWordPart c :=
  isWordPart_of_isNamePart (isNamePart_of_isDigit h)

/-! ## Names -/

namespace Declaration

theorem isNamePart_of_isBareName {name : String} (h : isBareName name) :
    ∀ c ∈ name.toList, isNamePart c := by
  rw [isBareName] at h
  intro c hc
  split at h
  · cases h
  · rename_i first rest chars
    rw [Bool.and_eq_true] at h
    rw [chars] at hc
    rcases List.mem_cons.mp hc with rfl | hc
    · rw [isNamePart, h.1, Bool.true_or]
    · exact List.all_eq_true.mp h.2 c hc

theorem exists_isNameStart_of_isBareName {name : String} (h : isBareName name) :
    ∃ c rest, name.toList = c :: rest ∧ isNameStart c := by
  rw [isBareName] at h
  split at h
  · cases h
  · rename_i first rest chars
    exact ⟨first, rest, chars, (Bool.and_eq_true _ _ ▸ h).1⟩

end Declaration

/-- The words that are no names of types. -/
def reservedWords : List String :=
  ["string", "number", "boolean", "any", "null", "never", "this", "true", "false", "Array"]

/-- A name that is written without quotes and is no reserved word. -/
def IsPlainName (name : String) : Prop :=
  Declaration.isBareName name ∧ name ∉ reservedWords

/-! ## Numbers -/

theorem isWordPart_of_mem_toDigits {n : Nat} {c : Char} (h : c ∈ Nat.toDigits 10 n) :
    isWordPart c := isWordPart_of_isDigit (Text.isDigit_toDigits h)

namespace Decimal

variable {d : Decimal}

theorem forall_mem_zeros (n : Nat) : ∀ c ∈ zeros n, isWordPart c := by
  intro c hc
  rw [(List.mem_replicate.mp hc).2]
  rfl

theorem forall_mem_pointed {digits : List Char} (each : ∀ c ∈ digits, isWordPart c) (whole : Nat) :
    ∀ c ∈ pointed digits whole, isWordPart c := by
  have point : ∀ c ∈ ['.', '0'], isWordPart c := List.all_eq_true.mp rfl
  rw [pointed]
  split
  · exact List.forall_mem_append.mpr
      ⟨List.forall_mem_append.mpr ⟨each, forall_mem_zeros _⟩, point⟩
  · refine List.forall_mem_append.mpr ⟨fun c hc => each c (List.mem_of_mem_take hc), ?_⟩
    exact List.forall_mem_cons.mpr ⟨rfl, fun c hc => each c (List.mem_of_mem_drop hc)⟩

/-- A decimal is written in word characters. -/
theorem forall_mem_write (each : ∀ c ∈ d.digits, isWordPart c) :
    ∀ c ∈ (d.write Number.realLayout).toList, isWordPart c := by
  rw [write]
  split
  · split
    · rw [String.toList_ofList]
      refine List.forall_mem_append.mpr ⟨?_, each⟩
      exact List.forall_mem_cons.mpr ⟨rfl, List.forall_mem_cons.mpr ⟨rfl, forall_mem_zeros _⟩⟩
    · rw [String.toList_ofList]
      exact forall_mem_pointed each _
  · dsimp only
    rw [String.toList_append, String.toList_append, String.toList_ofList]
    have exponent : ∀ c ∈ (toString d.exponent.natAbs).toList, isWordPart c := by
      rw [show (toString d.exponent.natAbs).toList = _ from Nat.toList_repr]
      exact fun c => isWordPart_of_mem_toDigits
    refine List.forall_mem_append.mpr ⟨List.forall_mem_append.mpr ⟨?_, ?_⟩, exponent⟩
    · split
      · exact fun _ h => nomatch h
      · rename_i digits
        rwa [digits] at each
      · rename_i first more _ digits
        rw [digits] at each
        obtain ⟨hfirst, hmore⟩ := List.forall_mem_cons.mp each
        exact List.forall_mem_cons.mpr ⟨hfirst, List.forall_mem_cons.mpr ⟨rfl, hmore⟩⟩
    · split <;> exact List.all_eq_true.mp rfl

/-- Somewhere in a written decimal there is a point or a sign. -/
theorem exists_mem_write (d : Decimal) :
    ∃ c ∈ (d.write Number.realLayout).toList, Declaration.isNamePart c = false := by
  rw [write]
  split
  · split
    · rw [String.toList_ofList]
      exact ⟨'.', .tail _ (.head _), rfl⟩
    · rw [String.toList_ofList, pointed]
      refine ⟨'.', ?_, rfl⟩
      split
      · exact List.mem_append_right _ (.head _)
      · exact List.mem_append_right _ (.head _)
  · dsimp only
    rw [String.toList_append, String.toList_append]
    have mark : ∃ c ∈ (if d.exponent < 0 then Number.realLayout.negativeMark
        else Number.realLayout.positiveMark).toList, Declaration.isNamePart c = false := by
      split
      · exact ⟨'-', .tail _ (.head _), rfl⟩
      · exact ⟨'+', .tail _ (.head _), rfl⟩
    obtain ⟨c, hc, sign⟩ := mark
    exact ⟨c, List.mem_append_left _ (List.mem_append_right _ hc), sign⟩

end Decimal

namespace Binary64

theorem forall_mem_shortest (tieUp : Bool) (rank : Nat) :
    ∀ c ∈ (shortest tieUp rank).digits, isWordPart c := by
  rw [shortest]
  dsimp only
  split
  · exact List.forall_mem_singleton.mpr rfl
  · rename_i value grid _
    intro c hc
    have trimmed := (List.dropWhile_suffix _).mem (List.mem_reverse.mp hc)
    exact isWordPart_of_mem_toDigits (List.mem_reverse.mp trimmed)

/-- A double is written in word characters, some of them a point or a sign. -/
theorem word_write (x : Binary64) :
    (∀ c ∈ (x.write Number.realLayout).toList, isWordPart c) ∧
      ∃ c ∈ (x.write Number.realLayout).toList, Declaration.isNamePart c = false := by
  have sign : ∀ c ∈ (if x.negative then "-" else "").toList, isWordPart c := by
    split <;> exact List.all_eq_true.mp rfl
  rw [write]
  split
  · rw [String.toList_append]
    exact ⟨List.forall_mem_append.mpr ⟨sign, List.all_eq_true.mp rfl⟩,
      '.', List.mem_append_right _ (.tail _ (.head _)), rfl⟩
  · rw [String.toList_append]
    obtain ⟨c, hc, point⟩ := (shortest Number.realLayout.tieUp x.rank).exists_mem_write
    exact ⟨List.forall_mem_append.mpr ⟨sign, Decimal.forall_mem_write (forall_mem_shortest _ _)⟩,
      c, List.mem_append_right _ hc, point⟩

end Binary64

namespace Number

/-- An integer is written in digits, perhaps after a sign. -/
theorem toList_text_integer (i : WideInt) : ∃ n, (integer i).text.toList = Nat.toDigits 10 n ∨
    (integer i).text.toList = '-' :: Nat.toDigits 10 n := by
  rw [text]
  cases i.value with
  | ofNat n => exact ⟨n, .inl Nat.toList_repr⟩
  | negSucc n => exact ⟨n + 1, .inr (Text.toList_toString_negSucc n)⟩

/-- A number is written in word characters. -/
theorem forall_mem_text (n : Number) : ∀ c ∈ n.text.toList, isWordPart c := by
  cases n with
  | real x => exact x.word_write.1
  | integer i =>
    obtain ⟨n, digits | signed⟩ := toList_text_integer i
    · rw [digits]
      exact fun c => isWordPart_of_mem_toDigits
    · rw [signed]
      exact List.forall_mem_cons.mpr ⟨rfl, fun c => isWordPart_of_mem_toDigits⟩

theorem text_ne_nil (n : Number) : n.text.toList ≠ [] := by
  cases n with
  | real x =>
    obtain ⟨c, hc, _⟩ := x.word_write.2
    exact List.ne_nil_of_mem hc
  | integer i =>
    obtain ⟨n, digits | signed⟩ := toList_text_integer i
    · rw [digits]
      exact Nat.toDigits_ne_nil
    · rw [signed]
      exact List.cons_ne_nil _ _

/-- The text of a number could not be written as a name. -/
theorem isBareName_text (n : Number) : Declaration.isBareName n.text = false := by
  rw [Bool.eq_false_iff]
  intro bare
  cases n with
  | real x =>
    obtain ⟨c, hc, point⟩ := x.word_write.2
    rw [Declaration.isNamePart_of_isBareName bare c hc] at point
    cases point
  | integer i =>
    obtain ⟨c, rest, chars, isStart⟩ := Declaration.exists_isNameStart_of_isBareName bare
    obtain ⟨n, digits | signed⟩ := toList_text_integer i
    · have isDigit : c.isDigit :=
        Text.isDigit_toDigits (n := n) (digits.symm.trans chars ▸ .head _)
      rw [isNameStart_of_isDigit isDigit] at isStart
      cases isStart
    · cases (List.cons.inj (signed.symm.trans chars)).1
      cases isStart

end Number

/-! ## Keywords -/

/-- A word with a meaning of its own. -/
inductive Keyword
  | primitive (p : Primitive)
  | boolean (b : Bool)
  /-- The word for an array of a union, which stands in angle brackets after it. -/
  | array

namespace Keyword

/-- The text of a keyword. -/
def text : Keyword → String
  | primitive p => p.keyword
  | boolean b => toString b
  | array => "Array"

/-- All keywords. -/
def all : List Keyword :=
  [.primitive .string, .primitive .number, .primitive .boolean, .primitive .any, .primitive .null,
    .primitive .never, .primitive .this, .boolean true, .boolean false, .array]

theorem mem_all (k : Keyword) : k ∈ all := by
  cases k with
  | primitive p => cases p <;> simp [all]
  | boolean b => cases b <;> simp [all]
  | array => simp [all]

/-- The keywords are the reserved words. -/
theorem map_text_all : all.map text = reservedWords := rfl

theorem text_mem_reservedWords (k : Keyword) : k.text ∈ reservedWords :=
  map_text_all ▸ List.mem_map_of_mem k.mem_all

/-- A keyword is known by its text. -/
theorem text_injective {k l : Keyword} (same : k.text = l.text) : k = l := by
  have distinct : (all.map text).Nodup := by
    rw [map_text_all]
    decide
  exact List.inj_on_of_nodup_map distinct k.mem_all l.mem_all same

theorem isBareName_text (k : Keyword) : Declaration.isBareName k.text := by
  have each : ∀ w ∈ reservedWords, Declaration.isBareName w := List.all_eq_true.mp rfl
  exact each _ k.text_mem_reservedWords

end Keyword

/-! ## Heads -/

/-- The word that a type is written with. -/
inductive Head
  | keyword (k : Keyword)
  | name (word : String)
  | number (n : Number)

namespace Head

/-- The text of the word. -/
def text : Head → String
  | .keyword k => k.text
  | .name word => word
  | .number n => n.text

/-- Names are plain, and numbers are among those that occur. -/
def Plain (numerals : Set Number) : Head → Prop
  | .keyword _ => True
  | .name word => IsPlainName word
  | .number n => n ∈ numerals

variable {numerals : Set Number} {h h' : Head}

theorem forall_mem_text (plain : h.Plain numerals) : ∀ c ∈ h.text.toList, isWordPart c := by
  have bare : ∀ {name : String}, Declaration.isBareName name → ∀ c ∈ name.toList, isWordPart c :=
    fun h c hc => isWordPart_of_isNamePart (Declaration.isNamePart_of_isBareName h c hc)
  cases h with
  | keyword k => exact bare k.isBareName_text
  | name word => exact bare plain.1
  | number n => exact n.forall_mem_text

theorem text_ne_nil (plain : h.Plain numerals) : h.text.toList ≠ [] := by
  have bare : ∀ {word : String}, Declaration.isBareName word → word.toList ≠ [] := by
    intro word bare
    obtain ⟨c, rest, chars, _⟩ := Declaration.exists_isNameStart_of_isBareName bare
    rw [chars]
    exact List.cons_ne_nil c rest
  cases h with
  | keyword k => exact bare k.isBareName_text
  | name word => exact bare plain.1
  | number n => exact n.text_ne_nil

/-- A number is not written like a keyword or a name. -/
theorem text_ne_of_isBareName {word : String} (n : Number) (bare : Declaration.isBareName word) :
    n.text ≠ word := by
  rintro rfl
  rw [n.isBareName_text] at bare
  cases bare

/-- Where numbers are known by their texts, so are words. -/
theorem eq_of_text (injective : Set.InjOn Number.text numerals) (plain : h.Plain numerals)
    (plain' : h'.Plain numerals) (same : h.text = h'.text) : h = h' := by
  cases h with
  | keyword k =>
    cases h' with
    | keyword k' => rw [Keyword.text_injective same]
    | name word =>
      cases (show k.text = word from same)
      exact absurd k.text_mem_reservedWords plain'.2
    | number n => exact absurd same.symm (text_ne_of_isBareName n k.isBareName_text)
  | name word =>
    cases h' with
    | keyword k' =>
      cases (show word = k'.text from same)
      exact absurd k'.text_mem_reservedWords plain.2
    | name word' => rw [show word = word' from same]
    | number n => exact absurd same.symm (text_ne_of_isBareName n plain.1)
  | number n =>
    cases h' with
    | keyword k' => exact absurd same (text_ne_of_isBareName n k'.isBareName_text)
    | name word' => exact absurd same (text_ne_of_isBareName n plain'.1)
    | number n' => rw [injective plain plain' same]

end Head

end SchemaDialogue
