import SchemaDialogue.Json.Fault
import SchemaDialogue.Json.Numeral
import SchemaDialogue.Text.Symbol

/-!
# Scanning the leaves of a JSON text

The three kinds of leaves are words (`null`, `true`, `false`), numerals and quoted texts. A leaf can
be read in two ways. A *strict* reading yields its value. A *lax* reading only finds where the leaf
ends, for members that nobody asks for: it accepts stray bytes and lone surrogates in quoted texts
and numerals out of range. Where both fail, they may report different faults.
-/

namespace SchemaDialogue.Scan

/-- What scanning a leaf gives: its value, or the fault of a strict reading of a leaf that still has
an end, or no end at all. -/
inductive Leaf (α : Type) where
  | closed (value : Except Fault α) (after : Place) (rest : List Symbol)
  | cut (strict lax : Fault)

/-! ## Words -/

/-- Read the expected characters of a word. -/
def word (p : Place) : List Char → List Symbol → Except Fault (Place × List Symbol)
  | [], rest => .ok (p, rest)
  | _ :: _, [] => .error ⟨.endInValue, p⟩
  | c :: more, s :: rest =>
    if s.isChar c then word (s.past p) more rest
    else .error ⟨.expectedWord, Symbol.pastByte p (s :: rest)⟩

/-! ## Numerals -/

def digit? : Symbol → Option Nat
  | .char c => if c.isDigit then some (c.toNat - '0'.toNat) else none
  | .stray _ => none

/-- The digits at the front of a text, and the text after them. -/
def digits : List Symbol → List Nat × List Symbol
  | [] => ([], [])
  | s :: rest =>
    match digit? s with
    | none => ([], s :: rest)
    | some d => let (more, after) := digits rest; (d :: more, after)

/-- The exponent part at the front of a text, if there is one: its sign and digits, the place where
the digits start, and the text after it. -/
inductive ExponentScan where
  | absent
  | present (exponent : NumeralExponent) (digitsStart : Place) (rest : List Symbol)
  | cut (strict lax : Fault)

/-- Does the text go on with one of two characters? -/
def startsWith (a b : Char) : List Symbol → Bool
  | s :: _ => s.isChar a || s.isChar b
  | [] => false

def exponent (p : Place) (text : List Symbol) : ExponentScan :=
  if startsWith 'e' 'E' text then
    let signed := text.drop 1
    let hasSign := startsWith '+' '-' signed
    let unsigned := if hasSign then signed.drop 1 else signed
    let here := p.forward (if hasSign then 2 else 1)
    -- Only where the text ends do the two readings report different faults.
    match digits unsigned, unsigned with
    | ([], _), [] => .cut ⟨.endInValue, here⟩ ⟨.invalidNumber, here⟩
    | ([], _), _ =>
      let fault : Fault := ⟨.invalidNumber, Symbol.pastByte here unsigned⟩
      .cut fault fault
    | (ds, rest), _ => .present ⟨startsWith '-' '-' signed, ds⟩ here rest
  else .absent

/-- The strict value of a numeral that starts its exponent digits at `digitsStart` and ends at
`stop`. -/
def numeralValue (n : Numeral) (digitsStart stop : Place) : Except Fault Number :=
  match n.value? with
  | some value => .ok value
  | none =>
    .error ⟨.numberOutOfRange,
      if n.exponent.isSome then digitsStart.forward n.exponentDigitsRead else stop⟩

/-- Scan what follows the whole part and the fraction of a numeral. -/
def numeralEnd (p : Place) (negative : Bool) (whole fraction : List Nat) (text : List Symbol) :
    Leaf Number :=
  match exponent p text with
  | .absent => .closed (numeralValue ⟨negative, whole, fraction, none⟩ p p) p text
  | .present e digitsStart rest =>
    let stop := digitsStart.forward e.digits.length
    .closed (numeralValue ⟨negative, whole, fraction, some e⟩ digitsStart stop) stop rest
  | .cut strict lax => .cut strict lax

/-- Scan a numeral whose sign has been read. -/
def numeral (p : Place) (negative : Bool) (text : List Symbol) : Leaf Number :=
  match digits text with
  | ([], _) =>
    match text with
    | [] => .cut ⟨.endInValue, p⟩ ⟨.invalidNumber, p⟩
    | _ =>
      let fault : Fault := ⟨.invalidNumber, Symbol.pastByte p text⟩
      .cut fault fault
  | (first :: more, rest) =>
    -- A leading zero stands alone.
    if first = 0 && !more.isEmpty then
      let fault : Fault := ⟨.invalidNumber, p.forward 2⟩
      .cut fault fault
    else
      let whole := first :: more
      let here := p.forward whole.length
      if startsWith '.' '.' rest then
        let behind := rest.drop 1
        match digits behind, behind with
        | ([], _), [] => .cut ⟨.endInValue, here.forward 1⟩ ⟨.invalidNumber, here.forward 1⟩
        | ([], _), _ =>
          let fault : Fault := ⟨.invalidNumber, Symbol.pastByte (here.forward 1) behind⟩
          .cut fault fault
        | (fraction, after), _ =>
          numeralEnd (here.forward (1 + fraction.length)) negative whole fraction after
      else numeralEnd here negative whole [] rest

/-! ## Quoted texts -/

def hexDigit? : Symbol → Option Nat
  | .char c =>
    if c.isDigit then some (c.toNat - '0'.toNat)
    else if 'a' ≤ c ∧ c ≤ 'f' then some (c.toNat - 'a'.toNat + 10)
    else if 'A' ≤ c ∧ c ≤ 'F' then some (c.toNat - 'A'.toNat + 10)
    else none
  | .stray _ => none

/-- The value of four hexadecimal digits. -/
def hex? (a b c d : Symbol) : Option Nat := do
  let a ← hexDigit? a
  let b ← hexDigit? b
  let c ← hexDigit? c
  let d ← hexDigit? d
  pure (((a * 16 + b) * 16 + c) * 16 + d)

/-- The fault of an escape whose four bytes are missing or are no hexadecimal digits. -/
def hexFault (p : Place) (text : List Symbol) : Fault :=
  if text.foldl (fun n s => n + s.byteSize) 0 < 4 then ⟨.endInString, Symbol.pastAll p text⟩
  else ⟨.invalidEscape, Symbol.pastBytes p 4 text⟩

/-- The characters that escapes of one letter stand for. -/
def simpleEscape? : Char → Option Char
  | '"' => some '"'
  | '\\' => some '\\'
  | '/' => some '/'
  | 'b' => some '\x08'
  | 'f' => some '\x0c'
  | 'n' => some '\n'
  | 'r' => some '\r'
  | 't' => some '\t'
  | _ => none

/-- Is this the first half of a surrogate pair? -/
def isHighSurrogate (n : Nat) : Bool := 0xD800 ≤ n && n ≤ 0xDBFF

/-- Is this the second half of a surrogate pair? -/
def isLowSurrogate (n : Nat) : Bool := 0xDC00 ≤ n && n ≤ 0xDFFF

/-- The character of a surrogate pair. -/
def pairChar (high low : Nat) : Char :=
  Char.ofNat ((high - 0xD800) * 1024 + (low - 0xDC00) + 0x10000)

/-- What has been read of a quoted text: its characters in reverse, the first fault of the strict
reading, and the size of what has been read from the first stray byte on, with escapes decoded. -/
structure QuotedState where
  reversed : List Char := []
  failed : Option Fault := none
  spoilt : Option Nat := none

namespace QuotedState

def push (st : QuotedState) (c : Char) : QuotedState :=
  { st with reversed := c :: st.reversed, spoilt := st.spoilt.map (· + c.utf8Size) }

/-- The strict reading fails here, unless it has failed before. -/
def fail (st : QuotedState) (fault : Fault) : QuotedState :=
  { st with failed := st.failed.or (some fault) }

def stray (st : QuotedState) : QuotedState := { st with spoilt := some (st.spoilt.getD 0 + 1) }

/-- The strict reading of the whole text, which ends at `stop`. Stray bytes are found when the text
is complete, and are placed by the size of its decoded form. -/
def value (st : QuotedState) (stop : Place) : Except Fault String :=
  match st.failed, st.spoilt with
  | some fault, _ => .error fault
  | none, some size => .error ⟨.invalidCodePoint, stop.back size⟩
  | none, none => .ok (String.ofList st.reversed.reverse)

/-- The text has no end: the strict reading may have failed before. -/
def cut (st : QuotedState) (strict lax : Fault) : Leaf String :=
  .cut (st.failed.getD strict) lax

end QuotedState

/-- Scan a quoted text whose opening quote has been read. -/
def quoted (st : QuotedState) (p : Place) : List Symbol → Leaf String
  | [] => st.cut ⟨.endInString, p⟩ ⟨.endInString, p⟩
  | .stray _ :: rest => quoted st.stray (p.forward 1) rest
  | .char '"' :: rest => .closed (st.value (p.forward 1)) (p.forward 1) rest
  | .char '\\' :: .char 'u' :: a :: b :: c :: d :: rest =>
    match hex? a b c d with
    | none =>
      let fault := hexFault (p.forward 2) (a :: b :: c :: d :: rest)
      st.cut fault fault
    | some code =>
      let here := p.forward 6
      -- A second half without a first one.
      if isLowSurrogate code then quoted (st.fail ⟨.loneSurrogate, here⟩) here rest
      else if isHighSurrogate code then
        match rest with
        | .char '\\' :: .char 'u' :: a' :: b' :: c' :: d' :: rest' =>
          match hex? a' b' c' d' with
          | none =>
            let fault := hexFault (p.forward 8) (a' :: b' :: c' :: d' :: rest')
            st.cut fault fault
          | some low =>
            if isLowSurrogate low then quoted (st.push (pairChar code low)) (p.forward 12) rest'
            else
              -- The lax reading takes the second escape again, now by itself.
              quoted (st.fail ⟨.loneSurrogate, p.forward 12⟩) here
                (.char '\\' :: .char 'u' :: a' :: b' :: c' :: d' :: rest')
        | .char '\\' :: .char 'u' :: rest' =>
          let fault := hexFault (p.forward 8) rest'
          st.cut fault fault
        -- No escape of a second half follows: only the strict reading fails.
        | .char '\\' :: s :: rest' =>
          quoted (st.fail ⟨.cutHexEscape, Symbol.pastByte (p.forward 7) (s :: rest')⟩) here
            (.char '\\' :: s :: rest')
        | [.char '\\'] => st.cut ⟨.endInString, p.forward 7⟩ ⟨.endInString, p.forward 7⟩
        | [] => st.cut ⟨.endInString, here⟩ ⟨.endInString, here⟩
        | s :: rest' =>
          quoted (st.fail ⟨.cutHexEscape, Symbol.pastByte here (s :: rest')⟩) here (s :: rest')
      else quoted (st.push (Char.ofNat code)) here rest
  | .char '\\' :: .char 'u' :: rest =>
    let fault := hexFault (p.forward 2) rest
    st.cut fault fault
  | .char '\\' :: .char c :: rest =>
    match simpleEscape? c with
    | some meant => quoted (st.push meant) (p.forward 2) rest
    | none =>
      let fault : Fault := ⟨.invalidEscape, Symbol.pastByte (p.forward 1) (.char c :: rest)⟩
      st.cut fault fault
  | .char '\\' :: .stray _ :: _ =>
    let fault : Fault := ⟨.invalidEscape, p.forward 2⟩
    st.cut fault fault
  | [.char '\\'] => st.cut ⟨.endInString, p.forward 1⟩ ⟨.endInString, p.forward 1⟩
  | .char c :: rest =>
    if c < ' ' then
      st.cut ⟨.controlCharacter, Place.past p c⟩ ⟨.controlCharacter, p⟩
    else quoted (st.push c) (p.past c) rest
termination_by text => text.length

/-! ## What is left is shorter -/

theorem word_length {p : Place} {expected : List Char} {text : List Symbol}
    {r : Place × List Symbol} (h : word p expected text = .ok r) : r.2.length ≤ text.length := by
  induction expected generalizing p text with
  | nil => simp only [word, Except.ok.injEq] at h; subst h; exact Nat.le_refl _
  | cons c more ih =>
    cases text with
    | nil => simp [word] at h
    | cons s rest =>
      simp only [word] at h
      split at h
      · have := ih h; simp only [List.length_cons]; omega
      · simp at h

theorem digits_length (text : List Symbol) :
    (digits text).1.length + (digits text).2.length = text.length := by
  induction text with
  | nil => rfl
  | cons s rest ih =>
    simp only [digits]
    split
    · simp
    · simp only [List.length_cons]; omega

theorem exponent_length {p q : Place} {text rest : List Symbol} {e : NumeralExponent}
    (h : exponent p text = .present e q rest) : rest.length ≤ text.length := by
  unfold exponent at h
  split at h
  · have hle := digits_length
      (if startsWith '+' '-' (text.drop 1) then (text.drop 1).drop 1 else text.drop 1)
    dsimp only at h
    split at h
    · simp at h
    · simp at h
    · rename_i heq _
      rw [heq] at hle
      simp only [ExponentScan.present.injEq] at h
      obtain ⟨_, _, rfl⟩ := h
      split at hle <;> simp only [List.length_drop] at hle <;> omega
  · simp at h

theorem numeralEnd_length {p q : Place} {negative : Bool} {whole fraction : List Nat}
    {text rest : List Symbol} {v : Except Fault Number}
    (h : numeralEnd p negative whole fraction text = .closed v q rest) :
    rest.length ≤ text.length := by
  unfold numeralEnd at h
  split at h
  · simp only [Leaf.closed.injEq] at h; obtain ⟨_, _, rfl⟩ := h; exact Nat.le_refl _
  · rename_i heq
    simp only [Leaf.closed.injEq] at h
    obtain ⟨_, _, rfl⟩ := h
    exact exponent_length heq
  · simp at h

/-- A numeral takes at least one symbol. -/
theorem numeral_length {p q : Place} {negative : Bool} {text rest : List Symbol}
    {v : Except Fault Number} (h : numeral p negative text = .closed v q rest) :
    rest.length < text.length := by
  unfold numeral at h
  have hle := digits_length text
  split at h
  · split at h <;> simp at h
  · rename_i first more after heq
    rw [heq] at hle
    simp only [List.length_cons] at hle
    split at h
    · simp at h
    · dsimp only at h
      split at h
      · have hd := digits_length (after.drop 1)
        split at h
        · simp at h
        · simp at h
        · rename_i heq' _
          rw [heq'] at hd
          simp only [List.length_drop] at hd
          have := numeralEnd_length h
          omega
      · have := numeralEnd_length h
        omega

/-- A quoted text takes at least its closing quote. -/
theorem quoted_length {st : QuotedState} {p q : Place} {text rest : List Symbol}
    {v : Except Fault String} (h : quoted st p text = .closed v q rest) :
    rest.length < text.length := by
  fun_induction quoted st p text <;> simp_all [QuotedState.cut] <;> grind

end SchemaDialogue.Scan
