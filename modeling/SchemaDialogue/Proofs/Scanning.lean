import SchemaDialogue.Json.Print
import SchemaDialogue.Json.Token
import SchemaDialogue.Proofs.Decimal

/-!
# Scanning what has been written

The leaves of a written value are scanned as they were written, whatever follows:

* **words**: `Stream.scan_word`;
* **quoted texts**: `Stream.scan_quotedChars`, character by character (`Scan.quoted_escape`);
* **numbers**: `Stream.scan_integer`, for integers, as long as no further digit, point or exponent
  follows (`Scan.Stops`).
-/

namespace SchemaDialogue

namespace Scan

/-! ## Words -/

/-- The characters of a word are read when they are there. -/
theorem word_chars (chars : List Char) (p : Place) (rest : List Symbol) :
    ∃ q, word p chars (chars.map .char ++ rest) = .ok (q, rest) := by
  induction chars generalizing p with
  | nil => exact ⟨p, rfl⟩
  | cons c more ih =>
    obtain ⟨q, read⟩ := ih ((Symbol.char c).past p)
    refine ⟨q, ?_⟩
    rw [List.map_cons, List.cons_append, word, Symbol.isChar, decide_eq_true rfl, if_pos rfl, read]

/-! ## Quoted texts -/

/-- The four digits of an escape give back a character below the space. -/
theorem hex?_hexDigit (n : Nat) (small : n < 32) :
    hex? (.char '0') (.char '0') (.char (Json.hexDigit (n / 16)))
      (.char (Json.hexDigit (n % 16))) = some n := by
  have all : ∀ n : Fin 32, hex? (.char '0') (.char '0') (.char (Json.hexDigit (n / 16)))
      (.char (Json.hexDigit (n % 16))) = some n.1 := by decide
  exact all ⟨n, small⟩

/-- An escape of one letter stands for its character. -/
theorem quoted_simple {letter meant : Char} (known : simpleEscape? letter = some meant)
    (st : QuotedState) (p : Place) (rest : List Symbol) :
    quoted st p (.char '\\' :: .char letter :: rest) =
      quoted (st.push meant) (p.forward 2) rest := by
  have notU : letter ≠ 'u' := by
    rintro rfl
    cases known
  rw [quoted, known]
  · exact fun _ _ _ _ _ _ => notU
  · exact notU

/-- A character from the space on, other than the quote and the backslash, stands for itself. -/
theorem quoted_plain {c : Char} (quote : c ≠ '"') (backslash : c ≠ '\\') (space : ¬c < ' ')
    (st : QuotedState) (p : Place) (rest : List Symbol) :
    quoted st p (.char c :: rest) = quoted (st.push c) (p.past c) rest := by
  rw [quoted, if_neg space]
  · exact quote
  -- the other patterns start with a backslash
  all_goals
    intros
    contradiction

/-- A character is read from its escape. -/
theorem quoted_escape (st : QuotedState) (p : Place) (c : Char) (rest : List Symbol) :
    ∃ q, quoted st p ((Json.escape c).map .char ++ rest) = quoted (st.push c) q rest := by
  unfold Json.escape
  split
  · exact ⟨_, quoted_simple rfl st p rest⟩
  · exact ⟨_, quoted_simple rfl st p rest⟩
  · exact ⟨_, quoted_simple rfl st p rest⟩
  · exact ⟨_, quoted_simple rfl st p rest⟩
  · exact ⟨_, quoted_simple rfl st p rest⟩
  · exact ⟨_, quoted_simple rfl st p rest⟩
  · exact ⟨_, quoted_simple rfl st p rest⟩
  · rename_i quote backslash _ _ _ _ _
    split
    · rename_i control
      have small : c.toNat < 32 := control
      refine ⟨p.forward 6, ?_⟩
      show quoted st p (.char '\\' :: .char 'u' :: .char '0' :: .char '0' ::
        .char (Json.hexDigit (c.toNat / 16)) :: .char (Json.hexDigit (c.toNat % 16)) :: rest) = _
      rw [quoted, hex?_hexDigit c.toNat small]
      have low : isLowSurrogate c.toNat = false := by
        simp only [isLowSurrogate, Bool.and_eq_false_iff, decide_eq_false_iff_not]
        omega
      have high : isHighSurrogate c.toNat = false := by
        simp only [isHighSurrogate, Bool.and_eq_false_iff, decide_eq_false_iff_not]
        omega
      dsimp only
      rw [low, high, Char.ofNat_toNat]
      rfl
    · rename_i space
      exact ⟨_, quoted_plain quote backslash space st p rest⟩

/-- A quoted text is read to its quote, when nothing in it has failed. -/
theorem quoted_chars (chars : List Char) (rest : List Symbol) (st : QuotedState) (p : Place)
    (failed : st.failed = none) (spoilt : st.spoilt = none) :
    ∃ q, quoted st p ((chars.flatMap Json.escape).map .char ++ .char '"' :: rest) =
      .closed (.ok (String.ofList (st.reversed.reverse ++ chars))) q rest := by
  induction chars generalizing st p with
  | nil =>
    refine ⟨p.forward 1, ?_⟩
    show quoted st p (.char '"' :: rest) = _
    rw [quoted, QuotedState.value, failed, spoilt, List.append_nil]
  | cons c chars ih =>
    rw [List.flatMap_cons, List.map_append, List.append_assoc]
    obtain ⟨next, escaped⟩ :=
      quoted_escape st p c ((chars.flatMap Json.escape).map .char ++ .char '"' :: rest)
    have stays : (st.push c).spoilt = none := by rw [QuotedState.push, spoilt, Option.map_none]
    obtain ⟨q, read⟩ := ih (st.push c) next failed stays
    refine ⟨q, ?_⟩
    rw [escaped, read, QuotedState.push, List.reverse_cons, List.append_assoc]
    rfl

/-! ## Numbers -/

/-- What follows does not go on with a number: nothing does, or a comma or a closing bracket. -/
def Stops (rest : List Symbol) : Prop :=
  ∀ s more, rest = s :: more → s = .char ',' ∨ s = .char ']' ∨ s = .char '\x7d'

theorem stops_nil : Stops [] := fun _ _ same => by cases same

variable {rest : List Symbol}

theorem stops_comma (rest : List Symbol) : Stops (.char ',' :: rest) := by
  rintro _ _ ⟨⟩
  exact .inl rfl

theorem stops_bracket (rest : List Symbol) : Stops (.char ']' :: rest) := by
  rintro _ _ ⟨⟩
  exact .inr (.inl rfl)

theorem stops_brace (rest : List Symbol) : Stops (.char '\x7d' :: rest) := by
  rintro _ _ ⟨⟩
  exact .inr (.inr rfl)

theorem Stops.startsWith (stops : Stops rest) {a b : Char} (ha : a ∉ [',', ']', '\x7d'])
    (hb : b ∉ [',', ']', '\x7d']) : startsWith a b rest = false := by
  cases rest with
  | nil => rfl
  | cons s more =>
    simp only [List.mem_cons, List.not_mem_nil, or_false, not_or] at ha hb
    rcases stops s more rfl with rfl | rfl | rfl <;>
      simp [Scan.startsWith, Symbol.isChar, Ne.symm, ha, hb]

/-- The digits of a text end before what is no digit. -/
theorem digits_append {digitChars : List Char} (isDigit : ∀ c ∈ digitChars, c.isDigit = true)
    (stops : Stops rest) :
    digits (digitChars.map .char ++ rest) =
      (digitChars.map fun c => c.toNat - '0'.toNat, rest) := by
  induction digitChars with
  | nil =>
    cases rest with
    | nil => rfl
    | cons s more =>
      rcases stops s more rfl with rfl | rfl | rfl <;> rfl
  | cons c chars ih =>
    have first : digit? (.char c) = some (c.toNat - '0'.toNat) := if_pos (isDigit c (.head _))
    rw [List.map_cons, List.cons_append, digits, first,
      ih fun d mem => isDigit d (.tail _ mem)]
    rfl

/-- The value of digits in order. -/
def ofDigits (start : Nat) (digits : List Nat) : Nat := digits.foldl (fun n d => n * 10 + d) start

theorem le_ofDigits (start : Nat) (digits : List Nat) : start ≤ ofDigits start digits := by
  induction digits generalizing start with
  | nil => exact Nat.le_refl _
  | cons d rest ih =>
    have := ih (start * 10 + d)
    show start ≤ ofDigits (start * 10 + d) rest
    omega

/-- Digits whose value is below the bound are all gathered. -/
theorem gather_eq {bound start : Nat} {digits : List Nat} (small : ofDigits start digits < bound) :
    Numeral.gather bound start digits = (ofDigits start digits, 0) := by
  induction digits generalizing start with
  | nil => rfl
  | cons d rest ih =>
    have below : start * 10 + d < bound := Nat.lt_of_le_of_lt (le_ofDigits _ rest) small
    rw [Numeral.gather, if_pos below]
    exact ih small

theorem ofDigits_toDigits (n : Nat) :
    ofDigits 0 ((Nat.toDigits 10 n).map fun c => c.toNat - '0'.toNat) = n := by
  rw [ofDigits, List.foldl_map]
  exact Text.digitsValue_toDigits n

/-- The value of a digit is zero for one digit only. -/
theorem digit_eq_zero_iff {c : Char} (isDigit : c.isDigit = true) :
    c.toNat - '0'.toNat = 0 ↔ c = '0' := by
  have bounds := Text.isDigit_iff.mp isDigit
  have zero : '0'.toNat = 48 := rfl
  rw [← Char.toNat_inj, zero]
  omega

/-- Digits are read to what follows them, unless they are a zero and further digits. -/
theorem numeral_digits {first : Char} {more : List Char}
    (isDigit : ∀ c ∈ first :: more, c.isDigit = true) (leading : first = '0' → more = [])
    (negative : Bool) (p : Place) (stops : Stops rest) :
    ∃ q, numeral p negative ((first :: more).map .char ++ rest) =
      .closed (numeralValue ⟨negative, (first :: more).map fun c => c.toNat - '0'.toNat, [],
        none⟩ q q) q rest := by
  have split := digits_append isDigit stops
  have noPoint : startsWith '.' '.' rest = false := stops.startsWith (by decide) (by decide)
  have noExponent : startsWith 'e' 'E' rest = false := stops.startsWith (by decide) (by decide)
  have noZero : (decide (first.toNat - '0'.toNat = 0) &&
      !(more.map fun c => c.toNat - '0'.toNat).isEmpty) = false := by
    by_cases zero : first = '0'
    · simp [leading zero]
    · have positive := mt (digit_eq_zero_iff (isDigit first (.head _))).mp zero
      rw [decide_eq_false positive, Bool.false_and]
  refine ⟨p.forward (first :: more).length, ?_⟩
  rw [numeral, split, List.map_cons]
  · dsimp only
    rw [noZero, noPoint, numeralEnd, exponent, noExponent, List.length_cons, List.length_map]
    rfl
  · exact fun nothing => by cases nothing

/-- A zero in front of further digits begins no numeral. -/
theorem numeral_leadingZero {more : List Char} (isDigit : ∀ c ∈ more, c.isDigit = true)
    (further : more ≠ []) (negative : Bool) (p : Place) (stops : Stops rest) :
    ∃ strict lax, numeral p negative (('0' :: more).map .char ++ rest) = .cut strict lax := by
  have zero : ('0').isDigit = true := rfl
  have split := digits_append (List.forall_mem_cons.mpr ⟨zero, isDigit⟩) stops
  obtain ⟨d, others, rfl⟩ := List.exists_cons_of_ne_nil further
  rw [numeral, split, List.map_cons]
  · exact ⟨_, _, rfl⟩
  · exact fun nothing => by cases nothing

/-- A numeral that is written as an integer is read to what follows it. -/
theorem numeral_toDigits (n : Nat) (negative : Bool) (p : Place) (stops : Stops rest) :
    ∃ q, numeral p negative ((Nat.toDigits 10 n).map .char ++ rest) =
      .closed (numeralValue ⟨negative, (Nat.toDigits 10 n).map fun c => c.toNat - '0'.toNat, [],
        none⟩ q q) q rest := by
  -- only zero starts with a zero, and then no digit follows
  obtain ⟨first, more, digits_eq, leading⟩ : ∃ first more, Nat.toDigits 10 n = first :: more ∧
      (first = '0' → more = []) := by
    rcases Nat.eq_zero_or_pos n with rfl | positive
    · exact ⟨'0', [], rfl, fun _ => rfl⟩
    · obtain ⟨first, more, digits_eq, nonzero⟩ := Text.toDigits_eq_cons n positive
      exact ⟨first, more, digits_eq, fun zero => absurd zero nonzero⟩
  have isDigit : ∀ c ∈ first :: more, c.isDigit = true :=
    fun c mem => Text.isDigit_toDigits (n := n) (digits_eq ▸ mem)
  rw [digits_eq]
  exact numeral_digits isDigit leading negative p stops

/-- An integer in range is the number of its value. -/
theorem ofInt?_value (value : WideInt) : Number.ofInt? value.value = some (.integer value) := by
  rw [Number.ofInt?, WideInt.ofInt?, dif_pos ⟨value.lower, value.upper⟩]
  rfl

/-- An integer is read when its digits are all gathered and it is not a zero with a sign. -/
theorem value?_of_gather {negative : Bool} {digits : List Nat} {n : Nat} {value : WideInt}
    (gathered : Numeral.gather (2 ^ 64) 0 digits = (n, 0))
    (same : value.value = if negative then -(n : Int) else n)
    (nonzero : negative = true → n ≠ 0) :
    Numeral.value? ⟨negative, digits, [], none⟩ = some (.integer value) := by
  have number := ofInt?_value value
  cases negative with
  | false =>
    rw [same, if_neg Bool.false_ne_true] at number
    simp only [Numeral.value?, gathered, Bool.false_eq_true, if_false]
    rw [number]
    rfl
  | true =>
    rw [same, if_pos rfl] at number
    simp only [Numeral.value?, gathered, if_true, if_neg (nonzero rfl)]
    rw [number]
    rfl

/-- An integer of 64 bits is read as it was written. -/
theorem numeralValue_toDigits {negative : Bool} {n : Nat} {value : WideInt}
    (same : value.value = if negative then -(n : Int) else n)
    (nonzero : negative = true → n ≠ 0) (p q : Place) :
    numeralValue ⟨negative, (Nat.toDigits 10 n).map fun c => c.toNat - '0'.toNat, [], none⟩ p q =
      .ok (.integer value) := by
  have lower := value.lower
  have upper := value.upper
  have small : n < 2 ^ 64 := by
    cases negative <;> simp only [if_true, Bool.false_eq_true, if_false] at same <;> omega
  have below : ofDigits 0 ((Nat.toDigits 10 n).map fun c => c.toNat - '0'.toNat) < 2 ^ 64 := by
    rwa [ofDigits_toDigits n]
  have gathered := gather_eq below
  rw [ofDigits_toDigits n] at gathered
  rw [numeralValue, value?_of_gather gathered same nonzero]

end Scan

/-! ## Tokens -/

namespace Stream

/-- The stream starts with a token of this kind and goes on with what is scanned from `rest`. -/
def Begins (s : Stream) (kind : TokenKind) (rest : List Symbol) : Prop :=
  ∃ start peeked stop q, s = .token ⟨kind, start, peeked, stop⟩ (scan q rest)

/-- The token of this kind that starts with a character at `p`. -/
def tokenAt (p : Place) (c : Char) (kind : TokenKind) (stop : Place) : Token :=
  ⟨kind, p, Symbol.pastByte p [.char c], stop⟩

section

variable {p q : Place} {c : Char} {more rest : List Symbol}

theorem begins_of_eq {s : Stream} {kind : TokenKind} {stop : Place}
    (h : s = .token (tokenAt p c kind stop) (scan q rest)) : s.Begins kind rest :=
  ⟨_, _, _, q, h⟩

theorem scan_eq_punctuation {kind : TokenKind} (visible : isBlank c = false)
    (known : punctuation? c = some kind) :
    scan p (.char c :: rest) = .token (tokenAt p c kind (p.past c)) (scan (p.past c) rest) := by
  rw [scan, if_neg (Bool.eq_false_iff.mp visible), known]
  rfl

theorem scan_eq_word {w : Word} (visible : isBlank c = false) (other : punctuation? c = none)
    (known : word? c = some w) (read : Scan.word (p.past c) w.tail more = .ok (q, rest)) :
    scan p (.char c :: more) = .token (tokenAt p c (.word w) q) (scan q rest) := by
  rw [scan, if_neg (Bool.eq_false_iff.mp visible), other, known]
  dsimp only
  split
  · rename_i stop after word
    rw [read] at word
    cases word
    rfl
  · rename_i fault word
    rw [read] at word
    cases word

theorem scan_eq_text {value : Except Fault String}
    (read : Scan.quoted {} (p.past '"') more = .closed value q rest) :
    scan p (.char '"' :: more) = .token (tokenAt p '"' (.text value) q) (scan q rest) := by
  rw [scan, if_neg (by decide), show punctuation? '"' = none from rfl,
    show word? '"' = none from rfl]
  dsimp only
  rw [if_pos rfl]
  split
  · rename_i value stop after quoted
    rw [read] at quoted
    cases quoted
    rfl
  · rename_i strict lax quoted
    rw [read] at quoted
    cases quoted

/-- What follows a sign is the number. -/
theorem scan_eq_minus {value : Except Fault Number}
    (read : Scan.numeral (p.past '-') true more = .closed value q rest) :
    scan p (.char '-' :: more) = .token (tokenAt p '-' (.numeral value) q) (scan q rest) := by
  rw [scan, if_neg (by decide), show punctuation? '-' = none from rfl,
    show word? '-' = none from rfl]
  dsimp only
  rw [if_neg (by decide), if_pos rfl]
  split
  · rename_i value stop after numeral
    rw [read] at numeral
    cases numeral
    rfl
  · rename_i strict lax numeral
    rw [read] at numeral
    cases numeral

/-- A digit starts nothing but a number. -/
theorem scan_eq_digit {value : Except Fault Number} (digit : c.isDigit = true)
    (read : Scan.numeral p false (.char c :: more) = .closed value q rest) :
    scan p (.char c :: more) = .token (tokenAt p c (.numeral value) q) (scan q rest) := by
  have visible : isBlank c = false := by
    refine Bool.eq_false_iff.mpr fun blank => ?_
    simp only [isBlank, Bool.or_eq_true, decide_eq_true_eq] at blank
    rcases blank with ((rfl | rfl) | rfl) | rfl <;> exact absurd digit (by decide)
  have punctuation : punctuation? c = none := by
    unfold punctuation?
    split <;> first | rfl | exact absurd digit (by decide)
  have word : word? c = none := by
    unfold word?
    split <;> first | rfl | exact absurd digit (by decide)
  have quote : c ≠ '"' := by
    rintro rfl
    exact absurd digit (by decide)
  have minus : c ≠ '-' := by
    rintro rfl
    exact absurd digit (by decide)
  rw [scan, if_neg (Bool.eq_false_iff.mp visible), punctuation, word]
  dsimp only
  rw [if_neg quote, if_neg minus, if_pos digit]
  split
  · rename_i value stop after numeral
    rw [read] at numeral
    cases numeral
    rfl
  · rename_i strict lax numeral
    rw [read] at numeral
    cases numeral

end

variable {rest : List Symbol}

theorem scan_punctuation {c : Char} {kind : TokenKind} (p : Place) (rest : List Symbol)
    (known : punctuation? c = some kind) (visible : isBlank c = false) :
    (scan p (.char c :: rest)).Begins kind rest :=
  begins_of_eq (scan_eq_punctuation visible known)

theorem scan_comma (p : Place) (rest : List Symbol) :
    (scan p (.char ',' :: rest)).Begins .comma rest :=
  scan_punctuation p rest rfl (by decide)

theorem scan_colon (p : Place) (rest : List Symbol) :
    (scan p (.char ':' :: rest)).Begins .colon rest :=
  scan_punctuation p rest rfl (by decide)

theorem scan_bracket (p : Place) (rest : List Symbol) :
    (scan p (.char ']' :: rest)).Begins .endArray rest :=
  scan_punctuation p rest rfl (by decide)

theorem scan_brace (p : Place) (rest : List Symbol) :
    (scan p (.char '\x7d' :: rest)).Begins .endObject rest :=
  scan_punctuation p rest rfl (by decide)

theorem scan_word {c : Char} {w : Word} (p : Place) (rest : List Symbol)
    (visible : isBlank c = false) (other : punctuation? c = none) (known : word? c = some w) :
    (scan p (.char c :: (w.tail.map .char ++ rest))).Begins (.word w) rest := by
  obtain ⟨q, read⟩ := Scan.word_chars w.tail (p.past c) rest
  exact begins_of_eq (scan_eq_word visible other known read)

theorem scan_quotedChars (p : Place) (s : String) (rest : List Symbol) :
    (scan p ((Json.quotedChars s).map .char ++ rest)).Begins (.text (.ok s)) rest := by
  obtain ⟨q, read⟩ := Scan.quoted_chars s.toList rest {} (p.past '"') rfl rfl
  have chars : (Json.quotedChars s).map .char ++ rest =
      .char '"' :: ((s.toList.flatMap Json.escape).map .char ++ .char '"' :: rest) := by
    simp [Json.quotedChars]
  rw [List.reverse_nil, List.nil_append, String.ofList_toList] at read
  rw [chars]
  exact begins_of_eq (scan_eq_text read)

/-- An integer is scanned as it is written. -/
theorem scan_integer (p : Place) (value : WideInt) (stops : Scan.Stops rest) :
    (scan p ((toString value.value).toList.map .char ++ rest)).Begins
      (.numeral (.ok (.integer value))) rest := by
  cases magnitude : value.value with
  | ofNat n =>
    have text : (toString (Int.ofNat n)).toList = Nat.toDigits 10 n := Nat.toList_repr
    have same : value.value = if false then -(n : Int) else n := magnitude
    obtain ⟨q, read⟩ := Scan.numeral_toDigits n false p stops
    rw [Scan.numeralValue_toDigits same nofun] at read
    rw [text]
    cases digits : Nat.toDigits 10 n with
    | nil => exact absurd digits Nat.toDigits_ne_nil
    | cons first more =>
      rw [digits] at read
      exact begins_of_eq (scan_eq_digit (Text.isDigit_toDigits (n := n) (digits ▸ .head _)) read)
  | negSucc n =>
    have same : value.value = if true then -((n + 1 : Nat) : Int) else (n + 1 : Nat) := magnitude
    obtain ⟨q, read⟩ := Scan.numeral_toDigits (n + 1) true (p.past '-') stops
    rw [Scan.numeralValue_toDigits same fun _ => Nat.succ_ne_zero n] at read
    rw [Text.toList_toString_negSucc]
    exact begins_of_eq (scan_eq_minus read)

end Stream

end SchemaDialogue
