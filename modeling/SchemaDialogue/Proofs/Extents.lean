import Mathlib.Tactic.IntervalCases
import SchemaDialogue.Proofs.Grammar

/-!
# How far a token reaches

A token is scanned from the symbols in front of what is left, and it stays the same whatever is
left. Only a number may be changed by what follows: by a digit, a point or an exponent
(`Scan.Ends`).

* **extents**: `Scan.Spans` says that a scan depends on the symbols in front of what it leaves;
* **leaves**: `Scan.word_spans`, `Scan.quoted_spans`, `Scan.numeral_spans`;
* **streams**: `Stream.scan_spans`, for any number of tokens.
-/

namespace SchemaDialogue

namespace Scan

/-- The text does not start with what a number could go on with. -/
def Ends (text : List Symbol) : Prop :=
  ∀ c more, text = .char c :: more → c.isDigit = false ∧ c ≠ '.' ∧ c ≠ 'e' ∧ c ≠ 'E'

/-- What may stand in the place of `rest`: what starts like it, or does not go on with a number. -/
def Fits (rest tail : List Symbol) : Prop := tail.head? = rest.head? ∨ Ends tail

/-- The result of a scan comes from the symbols in front of `rest`, whatever is left in the place of
`rest`. -/
def Spans {γ : Type} (scan result : List Symbol → γ) (text rest : List Symbol) : Prop :=
  ∃ front, text = front ++ rest ∧ ∀ tail, Fits rest tail → scan (front ++ tail) = result tail

theorem ends_nil : Ends [] := nofun

theorem Fits.append {rest tail : List Symbol} (fits : Fits rest tail) (front : List Symbol) :
    Fits (front ++ rest) (front ++ tail) := by
  cases front with
  | nil => exact fits
  | cons s front => exact .inl rfl

section

variable {γ : Type} {scan scan' result : List Symbol → γ} {text rest : List Symbol}

theorem Spans.refl : Spans result result text text := ⟨[], rfl, fun _ _ => rfl⟩

theorem Spans.eq (h : Spans scan result text rest) : scan text = result rest := by
  obtain ⟨front, rfl, again⟩ := h
  exact again rest (.inl rfl)

theorem Spans.map {δ : Type} (f : γ → δ) (h : Spans scan result text rest) :
    Spans (fun text => f (scan text)) (fun tail => f (result tail)) text rest := by
  obtain ⟨front, rfl, again⟩ := h
  exact ⟨front, rfl, fun tail fits => congrArg f (again tail fits)⟩

theorem Spans.step (first : List Symbol) (h : Spans scan result text rest)
    (step : ∀ more, scan' (first ++ more) = scan more) :
    Spans scan' result (first ++ text) rest := by
  obtain ⟨front, rfl, again⟩ := h
  refine ⟨first ++ front, (List.append_assoc ..).symm, fun tail fits => ?_⟩
  rw [List.append_assoc, step]
  exact again tail fits

theorem Spans.congr (h : Spans scan result text rest)
    (same : ∀ more, Fits text more → scan' more = scan more) : Spans scan' result text rest := by
  obtain ⟨front, rfl, again⟩ := h
  exact ⟨front, rfl, fun tail fits => (same _ (fits.append front)).trans (again tail fits)⟩

/-- One scan goes on where another one ends. -/
theorem Spans.trans {δ : Type} {first middle : List Symbol → δ} {rest' : List Symbol}
    (h : Spans first middle text rest) (h' : Spans scan result rest rest')
    (next : ∀ text more, first text = middle more → scan' text = scan more) :
    Spans scan' result text rest' := by
  obtain ⟨front, rfl, again⟩ := h
  obtain ⟨further, rfl, again'⟩ := h'
  refine ⟨front ++ further, (List.append_assoc ..).symm, fun tail fits => ?_⟩
  rw [List.append_assoc, next _ _ (again _ (fits.append further))]
  exact again' tail fits

/-- A scan that does not end within the first symbols ends behind them. -/
theorem Spans.behind (first : List Symbol) (h : Spans scan result (first ++ text) rest)
    (short : ∀ n < first.length, scan (first.take n) ≠ result []) :
    Spans (fun more => scan (first ++ more)) result text rest := by
  obtain ⟨front, split, again⟩ := h
  rcases List.append_eq_append_iff.mp split with ⟨more, rfl, rfl⟩ | ⟨missing, rfl, rfl⟩
  · exact ⟨more, rfl, fun tail fits => by simpa using again tail fits⟩
  · cases missing with
    | nil => exact ⟨[], rfl, fun tail fits => by simpa using again tail fits⟩
    | cons s missing =>
      refine absurd (again [] (.inr ends_nil)) ?_
      simpa using short front.length (by simp)

end

/-! ## Words -/

theorem word_spans {p q : Place} {chars : List Char} {text rest : List Symbol}
    (h : word p chars text = .ok (q, rest)) :
    Spans (word p chars) (fun tail => .ok (q, tail)) text rest := by
  induction chars generalizing p text with
  | nil =>
    cases h
    exact ⟨[], rfl, fun _ _ => rfl⟩
  | cons c more ih =>
    cases text with
    | nil => cases h
    | cons s text =>
      rw [word] at h
      split at h
      case isTrue same => exact (ih h).step [s] fun more => if_pos same
      case isFalse => cases h

/-! ## Quoted texts -/

section

variable {a b c d s : Symbol} {code : Nat} (known : hex? a b c d = some code)
include known

theorem quoted_code (low : ¬isLowSurrogate code = true) (high : ¬isHighSurrogate code = true)
    (st : QuotedState) (p : Place) (rest : List Symbol) :
    quoted st p (.char '\\' :: .char 'u' :: a :: b :: c :: d :: rest) =
      quoted (st.push (Char.ofNat code)) (p.forward 6) rest := by
  simp [quoted, known, low, high]

theorem quoted_lone (low : isLowSurrogate code = true) (st : QuotedState) (p : Place)
    (rest : List Symbol) :
    quoted st p (.char '\\' :: .char 'u' :: a :: b :: c :: d :: rest) =
      quoted (st.fail ⟨.loneSurrogate, p.forward 6⟩) (p.forward 6) rest := by
  simp [quoted, known, low]

section

variable (low : ¬isLowSurrogate code = true) (high : isHighSurrogate code = true)
include low high

theorem quoted_pair {a' b' c' d' : Symbol} {code' : Nat} (known' : hex? a' b' c' d' = some code')
    (low' : isLowSurrogate code' = true) (st : QuotedState) (p : Place) (rest : List Symbol) :
    quoted st p (.char '\\' :: .char 'u' :: a :: b :: c :: d ::
        .char '\\' :: .char 'u' :: a' :: b' :: c' :: d' :: rest) =
      quoted (st.push (pairChar code code')) (p.forward 12) rest := by
  simp [quoted, known, low, high, known', low']

/-- A second escape that does not belong to the first is read again. -/
theorem quoted_unpaired {a' b' c' d' : Symbol} {code' : Nat}
    (known' : hex? a' b' c' d' = some code') (low' : ¬isLowSurrogate code' = true)
    (st : QuotedState) (p : Place) (rest : List Symbol) :
    let second := .char '\\' :: .char 'u' :: a' :: b' :: c' :: d' :: rest
    quoted st p (.char '\\' :: .char 'u' :: a :: b :: c :: d :: second) =
      quoted (st.fail ⟨.loneSurrogate, p.forward 12⟩) (p.forward 6) second := by
  dsimp only
  rw [quoted, known]
  simp only [low, high, known', low', if_true, if_false, Bool.false_eq_true]

theorem quoted_otherEscape (other : s ≠ .char 'u') (st : QuotedState) (p : Place)
    (rest : List Symbol) :
    quoted st p (.char '\\' :: .char 'u' :: a :: b :: c :: d :: .char '\\' :: s :: rest) =
      quoted (st.fail ⟨.cutHexEscape, Symbol.pastByte (p.forward 7) [s]⟩) (p.forward 6)
        (.char '\\' :: s :: rest) := by
  rw [quoted, known]
  simp only [low, high, if_true, Bool.false_eq_true, if_false]
  split
  case h_1 same => cases same; exact absurd rfl other
  case h_2 same => cases same; exact absurd rfl other
  case h_3 same => cases same; rfl
  case h_4 same => cases same
  case h_5 same => cases same
  case h_6 _ _ escape _ same => cases same; exact (escape _ _ rfl rfl).elim

theorem quoted_noEscape (other : s ≠ .char '\\') (st : QuotedState) (p : Place)
    (rest : List Symbol) :
    quoted st p (.char '\\' :: .char 'u' :: a :: b :: c :: d :: s :: rest) =
      quoted (st.fail ⟨.cutHexEscape, Symbol.pastByte (p.forward 6) [s]⟩) (p.forward 6)
        (s :: rest) := by
  rw [quoted, known]
  simp only [low, high, if_true, Bool.false_eq_true, if_false]
  split
  case h_5 same => cases same
  case h_6 same => cases same; rfl
  all_goals
    rename_i same
    cases same
    exact absurd rfl other

end

end

/-- No quoted text ends within an escape. -/
theorem quoted_take_ne {st : QuotedState} {p q : Place} {a b c d : Symbol} {rest : List Symbol}
    {v : Except Fault String} :
    ∀ n < 6, quoted st p (([.char '\\', .char 'u', a, b, c, d] : List Symbol).take n) ≠
      .closed v q rest := by
  intro n hn
  interval_cases n <;> simp [quoted, QuotedState.cut]

theorem quoted_spans {st : QuotedState} {p q : Place} {text rest : List Symbol}
    {v : Except Fault String} (h : quoted st p text = .closed v q rest) :
    Spans (quoted st p) (.closed v q) text rest := by
  fun_induction quoted st p text
  case case2 st p byte text ih =>
    exact (ih h).step [.stray byte] fun more => by rw [List.singleton_append, quoted]
  case case3 st p text =>
    cases h
    exact ⟨[.char '"'], rfl, fun tail _ => by rw [List.singleton_append, quoted]⟩
  case case5 st p a b c d text code known here low ih =>
    exact (ih h).step [.char '\\', .char 'u', a, b, c, d] (quoted_lone known low st p)
  case case7 st p a b c d code known low high a' b' c' d' text code' known' low' ih =>
    exact (ih h).step [.char '\\', .char 'u', a, b, c, d, .char '\\', .char 'u', a', b', c', d']
      (quoted_pair known low high known' low' st p)
  -- what comes after half of a pair is looked at and then read again
  case case8 st p a b c d code known here low high a' b' c' d' text code' known' low' ih =>
    have second := (ih h).behind [.char '\\', .char 'u', a', b', c', d'] quoted_take_ne
    exact second.step [.char '\\', .char 'u', a, b, c, d, .char '\\', .char 'u', a', b', c', d']
      (quoted_unpaired known low high known' low' st p)
  case case10 st p a b c d code known here low high s text _ other ih =>
    have second := (ih h).behind [.char '\\', s] fun n (hn : n < 2) => by
      interval_cases n <;> simp [quoted, QuotedState.cut]
    exact second.step [.char '\\', .char 'u', a, b, c, d, .char '\\', s]
      (quoted_otherEscape known low high other st p)
  case case13 st p a b c d code known here low high s text _ _ further last ih =>
    have other : s ≠ .char '\\' := by
      rintro rfl
      cases text with
      | nil => exact last rfl rfl
      | cons => exact further _ _ rfl rfl
    have second := (ih h).behind [s] fun n (hn : n < 1) => by
      interval_cases n
      simp [quoted, QuotedState.cut]
    exact second.step [.char '\\', .char 'u', a, b, c, d, s]
      (quoted_noEscape known low high other st p)
  case case14 st p a b c d text code known here low high ih =>
    exact (ih h).step [.char '\\', .char 'u', a, b, c, d] (quoted_code known low high st p)
  case case16 st p c text _ _ meant known ih =>
    exact (ih h).step [.char '\\', .char c] (quoted_simple known st p)
  case case21 st p c text quote _ _ char stray last space ih =>
    have backslash : c ≠ '\\' := by
      rintro rfl
      cases text with
      | nil => exact last rfl rfl
      | cons s more =>
        cases s with
        | char c => exact char c more rfl rfl
        | stray byte => exact stray byte more rfl rfl
    exact (ih h).step [.char c] (quoted_plain quote backslash space st p)
  all_goals cases h

/-! ## Numerals -/

theorem digit?_of_fits {rest tail : List Symbol} (fits : Fits rest tail)
    (noDigit : rest.head?.bind digit? = none) : tail.head?.bind digit? = none := by
  rcases fits with same | ends
  · rw [same, noDigit]
  · match tail with
    | [] => rfl
    | .stray _ :: _ => rfl
    | .char c :: more => exact if_neg (by simp [(ends c more rfl).1])

theorem startsWith_eq_any (a b : Char) (text : List Symbol) :
    startsWith a b text = text.head?.any fun s => s.isChar a || s.isChar b := by
  cases text <;> rfl

theorem startsWith_of_fits {rest tail : List Symbol} (fits : Fits rest tail) {a b : Char}
    (known : ∀ c, c ≠ '.' → c ≠ 'e' → c ≠ 'E' → c ≠ a ∧ c ≠ b)
    (absent : startsWith a b rest = false) : startsWith a b tail = false := by
  rcases fits with same | ends
  · rw [startsWith_eq_any, same, ← startsWith_eq_any, absent]
  · match tail with
    | [] => rfl
    | .stray _ :: _ => rfl
    | .char c :: more =>
      obtain ⟨_, point, e, E⟩ := ends c more rfl
      obtain ⟨first, second⟩ := known c point e E
      simp [startsWith, Symbol.isChar, first, second]

/-- A text without a point still has none when what is left is replaced. -/
theorem point_of_fits {rest tail : List Symbol} (fits : Fits rest tail) :
    startsWith '.' '.' rest = false → startsWith '.' '.' tail = false :=
  startsWith_of_fits fits fun _ point _ _ => ⟨point, point⟩

theorem exponent_of_fits {rest tail : List Symbol} (fits : Fits rest tail) :
    startsWith 'e' 'E' rest = false → startsWith 'e' 'E' tail = false :=
  startsWith_of_fits fits fun _ _ e E => ⟨e, E⟩

theorem digits_of_head {text : List Symbol} (noDigit : text.head?.bind digit? = none) :
    digits text = ([], text) := by
  cases text with
  | nil => rfl
  | cons s text => rw [digits, show digit? s = none from noDigit]

theorem digits_spans (text : List Symbol) :
    Spans digits (fun tail => ((digits text).1, tail)) text (digits text).2 := by
  induction text with
  | nil => exact ⟨[], rfl, fun tail fits => digits_of_head (digit?_of_fits fits rfl)⟩
  | cons s text ih =>
    cases known : digit? s with
    | none =>
      have none : digits (s :: text) = ([], s :: text) := digits_of_head known
      rw [none]
      exact ⟨[], rfl, fun tail fits => digits_of_head (digit?_of_fits fits known)⟩
    | some d =>
      obtain ⟨front, split, again⟩ := ih
      have some : ∀ more, digits (s :: more) = (d :: (digits more).1, (digits more).2) := by
        intro more
        rw [digits, known]
      rw [some]
      refine ⟨s :: front, congrArg (s :: ·) split, fun tail fits => ?_⟩
      rw [List.cons_append, some, again tail fits]

/-- Digits are read up to where the text that they are the digits of ends. -/
theorem spans_of_digits {text rest : List Symbol} {ds : List Nat}
    (read : digits text = (ds, rest)) : Spans digits (fun tail => (ds, tail)) text rest := by
  have spans := digits_spans text
  rwa [read] at spans

/-- Digits start with a digit. -/
theorem startsWith_of_digits {text rest : List Symbol} {d : Nat} {ds : List Nat}
    (read : digits text = (d :: ds, rest)) {a b : Char} (ha : a.isDigit = false)
    (hb : b.isDigit = false) : startsWith a b text = false := by
  match text with
  | [] => cases read
  | .stray _ :: more => cases read
  | .char c :: more =>
    by_cases digit : c.isDigit = true
    · have other : c ≠ a ∧ c ≠ b := by
        constructor <;> rintro rfl
        · rw [ha] at digit
          cases digit
        · rw [hb] at digit
          cases digit
      simp [startsWith, Symbol.isChar, other]
    · rw [digits, digit?, if_neg digit] at read
      cases read

theorem exponent_unsigned {p : Place} {s : Symbol} {text rest : List Symbol} {d : Nat}
    {ds : List Nat} (e : startsWith 'e' 'E' (s :: text) = true)
    (read : digits text = (d :: ds, rest)) :
    exponent p (s :: text) = .present ⟨false, d :: ds⟩ (p.forward 1) rest := by
  have noSign : startsWith '+' '-' text = false := startsWith_of_digits read rfl rfl
  have noMinus : startsWith '-' '-' text = false := startsWith_of_digits read rfl rfl
  simp [exponent, e, noSign, noMinus, read]

theorem exponent_signed {p : Place} {s sign : Symbol} (text : List Symbol) {rest : List Symbol}
    {d : Nat} {ds : List Nat} (e : startsWith 'e' 'E' (s :: sign :: text) = true)
    (signed : startsWith '+' '-' (sign :: text) = true) (read : digits text = (d :: ds, rest)) :
    exponent p (s :: sign :: text) =
      .present ⟨startsWith '-' '-' (sign :: text), d :: ds⟩ (p.forward 2) rest := by
  simp [exponent, e, signed, read]

theorem exponent_spans {p q : Place} {text rest : List Symbol} {e : NumeralExponent}
    (h : exponent p text = .present e q rest) : Spans (exponent p) (.present e q) text rest := by
  unfold exponent at h
  split at h
  case isFalse => cases h
  case isTrue begins =>
    match text with
    | [] => cases begins
    | s :: signed =>
      simp only [List.drop_one, List.tail_cons] at h
      split at h
      case h_1 => cases h
      case h_2 => cases h
      case h_3 ds rest some read _ =>
        cases h
        obtain ⟨d, ds, rfl⟩ := List.exists_cons_of_ne_nil some
        cases hasSign : startsWith '+' '-' signed with
        | false =>
          rw [hasSign] at read
          have minus : startsWith '-' '-' signed = false := startsWith_of_digits read rfl rfl
          rw [minus]
          exact ((spans_of_digits read).trans .refl fun _ _ => exponent_unsigned begins).step [s]
            fun _ => rfl
        | true =>
          match signed with
          | [] => cases hasSign
          | sign :: unsigned =>
            rw [hasSign] at read
            exact ((spans_of_digits read).trans .refl fun text _ read =>
              exponent_signed text begins hasSign read).step [s, sign] fun _ => rfl

theorem startsWith_of_absent {p : Place} {text : List Symbol} (h : exponent p text = .absent) :
    startsWith 'e' 'E' text = false := by
  unfold exponent at h
  split at h
  case isTrue =>
    dsimp only at h
    split at h <;> cases h
  case isFalse none => exact Bool.eq_false_iff.mpr none

theorem numeralEnd_spans {p q : Place} {negative : Bool} {whole fraction : List Nat}
    {text rest : List Symbol} {v : Except Fault Number}
    (h : numeralEnd p negative whole fraction text = .closed v q rest) :
    Spans (numeralEnd p negative whole fraction) (.closed v q) text rest := by
  unfold numeralEnd at h
  split at h
  case h_1 absent =>
    cases h
    refine ⟨[], rfl, fun tail fits => ?_⟩
    rw [List.nil_append, numeralEnd, exponent, exponent_of_fits fits (startsWith_of_absent absent)]
    rfl
  case h_2 e digitsStart rest' present =>
    cases h
    refine (exponent_spans present).trans .refl fun _ more read => ?_
    rw [numeralEnd, read]
  case h_3 => cases h

/-- The numeral behind its whole part. -/
def numeralTail (p : Place) (negative : Bool) (whole : List Nat) (text : List Symbol) :
    Leaf Number :=
  if startsWith '.' '.' text then
    let behind := text.drop 1
    match digits behind, behind with
    | ([], _), [] => .cut ⟨.endInValue, p.forward 1⟩ ⟨.invalidNumber, p.forward 1⟩
    | ([], _), _ =>
      let fault : Fault := ⟨.invalidNumber, Symbol.pastByte (p.forward 1) behind⟩
      .cut fault fault
    | (fraction, after), _ =>
      numeralEnd (p.forward (1 + fraction.length)) negative whole fraction after
  else numeralEnd p negative whole [] text

theorem numeral_eq_tail {p : Place} {negative : Bool} {text rest : List Symbol} {d : Nat}
    {ds : List Nat} (read : digits text = (d :: ds, rest))
    (zero : (d = 0 && !ds.isEmpty) = false) :
    numeral p negative text = numeralTail (p.forward (d :: ds).length) negative (d :: ds) rest := by
  rw [numeral.eq_def, read]
  dsimp only
  rw [zero]
  rfl

theorem numeralTail_spans {p q : Place} {negative : Bool} {whole : List Nat}
    {text rest : List Symbol} {v : Except Fault Number}
    (h : numeralTail p negative whole text = .closed v q rest) :
    Spans (numeralTail p negative whole) (.closed v q) text rest := by
  unfold numeralTail at h
  split at h
  case isFalse noPoint =>
    refine (numeralEnd_spans h).congr fun more fits => ?_
    rw [numeralTail, point_of_fits fits (Bool.eq_false_iff.mpr noPoint)]
    rfl
  case isTrue point =>
    match text with
    | [] => cases point
    | s :: behind =>
      simp only [List.drop_one, List.tail_cons] at h
      split at h
      case h_1 => cases h
      case h_2 => cases h
      case h_3 behind _ _ fraction after some _ read =>
        obtain ⟨d, ds, rfl⟩ := List.exists_cons_of_ne_nil some
        have afterPoint : Spans (fun text => numeralTail p negative whole (s :: text))
            (.closed v q) behind rest := by
          refine (spans_of_digits read).trans (numeralEnd_spans h) fun text more read => ?_
          rw [numeralTail, show startsWith '.' '.' (s :: text) = true from point]
          simp only [List.drop_one, List.tail_cons, read, if_true]
        exact afterPoint.step [s] fun _ => rfl

theorem numeral_spans {p q : Place} {negative : Bool} {text rest : List Symbol}
    {v : Except Fault Number} (h : numeral p negative text = .closed v q rest) :
    Spans (numeral p negative) (.closed v q) text rest := by
  obtain ⟨ds, after, read⟩ : ∃ ds after, digits text = (ds, after) := ⟨_, _, rfl⟩
  rw [numeral.eq_def, read] at h
  cases ds with
  | nil =>
    dsimp only at h
    split at h <;> cases h
  | cons d ds =>
    dsimp only at h
    cases zero : (d = 0 && !ds.isEmpty) with
    | true =>
      rw [zero] at h
      cases h
    | false =>
      rw [zero] at h
      exact (spans_of_digits read).trans (numeralTail_spans h)
        fun _ _ read => numeral_eq_tail read zero

end Scan

namespace Stream

open Scan

/-! ## Tokens -/

/-- The text does not start with a blank. -/
def Visible (text : List Symbol) : Prop := ∀ c more, text = .char c :: more → isBlank c = false

variable {p q : Place} {text rest : List Symbol} {t : Token} {s : Stream}

theorem scan_blank {c : Char} (blank : isBlank c = true) (p : Place) (rest : List Symbol) :
    scan p (.char c :: rest) = scan (p.past c) rest := by
  rw [scan, if_pos blank]

theorem scan_stray (p : Place) (byte : UInt8) (rest : List Symbol) :
    scan p (.stray byte :: rest) =
      .token ⟨.stray, p, p.forward 1, Symbol.past p (.stray byte)⟩ (scan (p.forward 1) rest) := by
  rw [scan]

/-- Blanks in front of a token are skipped. -/
theorem blanks_spans (p : Place) (text : List Symbol) :
    ∃ q rest, Visible rest ∧ Spans (scan p) (scan q) text rest := by
  induction text generalizing p with
  | nil => exact ⟨p, [], nofun, .refl⟩
  | cons s text ih =>
    cases s with
    | stray byte =>
      refine ⟨p, _, ?_, .refl⟩
      rintro _ _ ⟨⟩
    | char c =>
      cases blank : isBlank c with
      | false =>
        refine ⟨p, _, ?_, .refl⟩
        rintro _ _ ⟨⟩
        exact blank
      | true =>
        obtain ⟨q, rest, visible, spans⟩ := ih (p.past c)
        exact ⟨q, rest, visible, spans.step [.char c] (scan_blank blank p)⟩

/-- The kind of the token that starts with a character which is no blank, where it ends and what is
left behind it. -/
inductive First (p : Place) (c : Char) (text : List Symbol) :
    TokenKind → Place → List Symbol → Prop
  | punctuation {kind} : punctuation? c = some kind → First p c text kind (p.past c) text
  | word {w q rest} : punctuation? c = none → word? c = some w →
      Scan.word (p.past c) w.tail text = .ok (q, rest) → First p c text (.word w) q rest
  | text {value q rest} : c = '"' → Scan.quoted {} (p.past '"') text = .closed value q rest →
      First p c text (.text value) q rest
  | minus {value q rest} : c = '-' → Scan.numeral (p.past '-') true text = .closed value q rest →
      First p c text (.numeral value) q rest
  | digit {value q rest} : c.isDigit = true →
      Scan.numeral p false (.char c :: text) = .closed value q rest →
      First p c text (.numeral value) q rest
  | other : punctuation? c = none → word? c = none → c ≠ '"' → c ≠ '-' → ¬c.isDigit = true →
      First p c text .stray (p.past c) text

theorem First.scan_eq {c : Char} {kind : TokenKind} (visible : isBlank c = false)
    (h : First p c text kind q rest) :
    scan p (.char c :: text) = .token (tokenAt p c kind q) (scan q rest) := by
  cases h with
  | punctuation known => exact scan_eq_punctuation visible known
  | word other known read => exact scan_eq_word visible other known read
  | text quote read =>
    subst quote
    exact scan_eq_text read
  | minus sign read =>
    subst sign
    exact scan_eq_minus read
  | digit digit read => exact scan_eq_digit digit read
  | other punctuation word quote minus digit =>
    rw [scan, if_neg (Bool.eq_false_iff.mp visible), punctuation, word]
    dsimp only
    rw [if_neg quote, if_neg minus, if_neg digit]
    rfl

/-- A character that is no blank starts a token, which may be broken. -/
theorem first_or_broken {c : Char} (visible : isBlank c = false) (p : Place)
    (text : List Symbol) :
    (∃ kind q rest, First p c text kind q rest) ∨
      ∃ beginning strict lax, scan p (.char c :: text) = broken beginning p strict lax := by
  rw [scan, if_neg (Bool.eq_false_iff.mp visible)]
  split
  case h_1 kind known => exact .inl ⟨_, _, _, .punctuation known⟩
  case h_2 other =>
    have other := Option.eq_none_iff_forall_ne_some.mpr other
    split
    case h_1 w known =>
      split
      case h_1 read => exact .inl ⟨_, _, _, .word other known read⟩
      case h_2 => exact .inr ⟨_, _, _, rfl⟩
    case h_2 word =>
      have word := Option.eq_none_iff_forall_ne_some.mpr word
      split
      case isTrue quote =>
        split
        case h_1 read => exact .inl ⟨_, _, _, .text quote (quote ▸ read)⟩
        case h_2 => exact .inr ⟨_, _, _, rfl⟩
      case isFalse quote =>
        split
        case isTrue minus =>
          split
          case h_1 read => exact .inl ⟨_, _, _, .minus minus (minus ▸ read)⟩
          case h_2 => exact .inr ⟨_, _, _, rfl⟩
        case isFalse minus =>
          split
          case isTrue digit =>
            split
            case h_1 read => exact .inl ⟨_, _, _, .digit digit read⟩
            case h_2 => exact .inr ⟨_, _, _, rfl⟩
          case isFalse digit => exact .inl ⟨_, _, _, .other other word quote minus digit⟩

/-- A text that does not start with a blank starts with a token, if it is not empty. -/
theorem eq_nil_of_scan (visible : Visible text) (h : scan p text = .finish q) : text = [] := by
  match text with
  | [] => rfl
  | .stray byte :: text =>
    rw [scan_stray] at h
    cases h
  | .char c :: text =>
    have visible := visible c text rfl
    obtain ⟨kind, stop, rest, first⟩ | ⟨beginning, strict, lax, same⟩ :=
      first_or_broken visible p text
    · rw [first.scan_eq visible] at h
      cases h
    · rw [same] at h
      cases h

theorem First.spans {c : Char} {kind : TokenKind} (visible : isBlank c = false)
    (h : First p c text kind q rest) :
    Spans (scan p) (fun tail => .token (tokenAt p c kind q) (scan q tail)) (.char c :: text)
      rest := by
  cases h with
  | punctuation known =>
    exact Spans.refl.step [.char c] fun _ => scan_eq_punctuation visible known
  | word other known read =>
    exact ((word_spans read).trans .refl fun _ _ read =>
      scan_eq_word visible other known read).step [.char c] fun _ => rfl
  | text quote read =>
    subst quote
    exact ((quoted_spans read).trans .refl fun _ _ read => scan_eq_text read).step [.char '"']
      fun _ => rfl
  | minus sign read =>
    subst sign
    exact ((numeral_spans read).trans .refl fun _ _ read => scan_eq_minus read).step [.char '-']
      fun _ => rfl
  | digit digit read =>
    have behind := (numeral_spans read).behind [.char c] fun n (hn : n < 1) => by
      interval_cases n
      simp [numeral, digits]
    exact (behind.trans .refl fun _ _ read => scan_eq_digit digit read).step [.char c] fun _ => rfl
  | other punctuation word quote minus digit =>
    exact Spans.refl.step [.char c] fun _ =>
      (First.other punctuation word quote minus digit).scan_eq visible

theorem token_spans (h : scan p text = .token t s) (whole : t.Whole) :
    ∃ q rest, s = scan q rest ∧ Spans (scan p) (fun tail => .token t (scan q tail)) text rest := by
  obtain ⟨start, text', visible, blanks⟩ := blanks_spans p text
  rw [blanks.eq] at h
  suffices first : ∃ q rest, s = scan q rest ∧
      Spans (scan start) (fun tail => .token t (scan q tail)) text' rest by
    obtain ⟨q, rest, same, spans⟩ := first
    exact ⟨q, rest, same, blanks.trans spans fun _ _ => id⟩
  match text' with
  | [] =>
    rw [scan] at h
    cases h
  | .stray byte :: more =>
    rw [scan_stray] at h
    cases h
    exact ⟨_, more, rfl, Spans.refl.step [.stray byte] (scan_stray start byte)⟩
  | .char c :: more =>
    have visible := visible c more rfl
    obtain ⟨kind, q, rest, first⟩ | ⟨beginning, strict, lax, same⟩ :=
      first_or_broken visible start more
    · rw [first.scan_eq visible] at h
      cases h
      exact ⟨q, rest, rfl, first.spans visible⟩
    · rw [same] at h
      cases h
      exact absurd rfl (whole _ _ _)

/-- Whole tokens are scanned from the symbols in front of what they leave. What they leave does not
start with a blank. -/
theorem scan_spans {tokens : List Token} (whole : ∀ t ∈ tokens, t.Whole)
    (h : scan p text = .before tokens s) :
    ∃ q rest, s = scan q rest ∧ Visible rest ∧
      Spans (scan p) (fun tail => .before tokens (scan q tail)) text rest := by
  induction tokens generalizing p text with
  | nil =>
    obtain ⟨q, rest, visible, spans⟩ := blanks_spans p text
    exact ⟨q, rest, h.symm.trans spans.eq, visible, spans⟩
  | cons t tokens ih =>
    obtain ⟨first, others⟩ := List.forall_mem_cons.mp whole
    obtain ⟨q, rest, same, spans⟩ := token_spans h first
    obtain ⟨q', rest', left, visible, further⟩ := ih others same.symm
    exact ⟨q', rest', left, visible, spans.trans (further.map (Stream.token t)) fun _ _ => id⟩

end Stream

end SchemaDialogue
