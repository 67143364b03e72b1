/-!
# Punycode

A text is written in ASCII by its ASCII characters, a hyphen if there are any, and the insertions
that lead from them to the whole text: the other characters by increasing code point, and those of
one code point from left to right. An insertion is a number that counts the states between it and
the one before, where a state is a code point and a place in the text so far. Numbers are written
with digits of a base that adapts to the size of the numbers before.
-/

namespace SchemaDialogue.Domain.Punycode

def base : Nat := 36
def leastThreshold : Nat := 1
def greatestThreshold : Nat := 26
def firstBias : Nat := 72

/-- The first code point that is inserted. -/
def firstCode : Nat := 0x80

/-- The digits in order of their values. -/
def digits : List Char := "abcdefghijklmnopqrstuvwxyz0123456789".toList

/-- The character of a digit. -/
def digit (value : Nat) : Char := digits.getD value '9'

/-- The value of a digit. -/
def digitValue? (c : Char) : Option Nat := digits.idxOf? c

/-- The digits of this value and above go on, at a place of a number. -/
def threshold (bias place : Nat) : Nat :=
  min greatestThreshold (max leastThreshold (base * (place + 1) - bias))

theorem threshold_bounds (bias place : Nat) :
    1 ≤ threshold bias place ∧ threshold bias place ≤ 26 := by
  unfold threshold leastThreshold greatestThreshold
  omega

/-- The digits of a number from a place on. -/
def writeNumber (bias place n : Nat) : List Char :=
  let t := threshold bias place
  if n < t then [digit n]
  else digit (t + (n - t) % (base - t)) :: writeNumber bias (place + 1) ((n - t) / (base - t))
termination_by n
decreasing_by
  have h := threshold_bounds bias place
  have := Nat.div_le_self (n - threshold bias place) (base - threshold bias place)
  omega

/-- The number at the front of a text, whose digits weigh `weight` from a place on, and what follows
it. -/
def readNumber? (bias place weight : Nat) : List Char → Option (Nat × List Char)
  | [] => none
  | c :: rest => do
    let value ← digitValue? c
    let t := threshold bias place
    if value < t then pure (value * weight, rest)
    else
      let (more, after) ← readNumber? bias (place + 1) (weight * (base - t)) rest
      pure (value * weight + more, after)

theorem length_lt_of_readNumber? {bias place weight : Nat} {text : List Char}
    {r : Nat × List Char} (h : readNumber? bias place weight text = some r) :
    r.2.length < text.length := by
  induction text generalizing place weight r with
  | nil => simp [readNumber?] at h
  | cons c rest ih =>
    simp only [readNumber?, Option.bind_eq_bind, Option.bind_eq_some_iff] at h
    obtain ⟨value, _, h⟩ := h
    split at h
    · cases h
      simp
    · simp only [Option.bind_eq_some_iff] at h
      obtain ⟨p, hp, h⟩ := h
      cases h
      have := ih hp
      simp only [List.length_cons]
      omega

/-- The steps by which a bias is found, and what is left of the size. -/
def biasSteps (size : Nat) : Nat × Nat :=
  if size ≤ (base - leastThreshold) * greatestThreshold / 2 then (0, size)
  else
    let (steps, rest) := biasSteps (size / (base - leastThreshold))
    (steps + 1, rest)
termination_by size
decreasing_by
  rename_i h
  simp only [base, leastThreshold, greatestThreshold] at *
  omega

/-- The bias after a number, when a text has reached a length. -/
def nextBias (n length : Nat) (isFirst : Bool) : Nat :=
  -- The first number is greater than the rest, since it counts from the first code point.
  let half := if isFirst then n / 700 else n / 2
  let (steps, rest) := biasSteps (half + half / length)
  base * steps + (base - leastThreshold + 1) * rest / (rest + 38)

/-- Between two insertions: the code point and place of the next state, the bias and the length of
the text so far. -/
structure State where
  code : Nat := firstCode
  place : Nat := 0
  bias : Nat := firstBias
  length : Nat
  isFirst : Bool := true

/-- The state after an insertion that a number stands for. -/
def State.after (s : State) (n code place : Nat) : State :=
  { code, place := place + 1, bias := nextBias n (s.length + 1) s.isFirst,
    length := s.length + 1, isFirst := false }

/-- Write insertions, each a code point and the place where it is put. -/
def writeInsertions (s : State) : List (Nat × Nat) → List Char
  | [] => []
  | (code, place) :: rest =>
    let n := (code - s.code) * (s.length + 1) + place - s.place
    writeNumber s.bias 0 n ++ writeInsertions (s.after n code place) rest

/-- The insertions of a text in their order. A character is put behind those before it in the text
that are there already. -/
def insertions (codes : List Nat) : List (Nat × Nat) :=
  let others := codes.zipIdx.filter (firstCode ≤ ·.1)
  (others.mergeSort fun a b => a.1 ≤ b.1).map fun (code, index) =>
    (code, (codes.take index).countP (· ≤ code))

/-- Write a text in ASCII. -/
def encode (text : List Char) : List Char :=
  let plain := text.filter (·.toNat < firstCode)
  plain ++ (if plain.isEmpty then [] else ['-']) ++
    writeInsertions { length := plain.length } (insertions (text.map Char.toNat))

/-- The character of a code point, if it has one. -/
def char? (code : Nat) : Option Char :=
  if Nat.isValidChar code then some (Char.ofNat code) else none

/-- Carry out the insertions that a text stands for. -/
def readInsertions? (s : State) (found : List Char) (text : List Char) : Option (List Char) :=
  if text.isEmpty then some found
  else
    match _ : readNumber? s.bias 0 1 text with
    | none => none
    | some (n, rest) => do
      -- The number counts places: a round through the whole text for each code point.
      let state := s.place + n
      let code := s.code + state / (s.length + 1)
      let place := state % (s.length + 1)
      let c ← char? code
      readInsertions? (s.after n code place) (found.take place ++ c :: found.drop place) rest
termination_by text.length
decreasing_by exact length_lt_of_readNumber? ‹_›

/-- Read a text that is written in ASCII. -/
def decode? (text : List Char) : Option (List Char) :=
  let behind := (text.reverse.takeWhile (· ≠ '-')).reverse
  let plain := text.take (text.length - behind.length - 1)
  readInsertions? { length := plain.length } plain
    (if plain.isEmpty then text else behind)

end SchemaDialogue.Domain.Punycode
