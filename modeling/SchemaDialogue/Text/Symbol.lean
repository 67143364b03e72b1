import SchemaDialogue.Text.Place

/-!
# Symbols of a byte text

A text given as bytes need not be well-formed UTF-8. It is read as a list of symbols: the characters
of its well-formed parts, and single stray bytes where no character starts. Columns count bytes, so
a symbol knows its encoded size.
-/

namespace SchemaDialogue

/-- One unit of a byte text: a character, or a byte that belongs to none. -/
inductive Symbol where
  | char (c : Char)
  | stray (byte : UInt8)
deriving DecidableEq

namespace Symbol

/-- The number of bytes a symbol was read from. -/
def byteSize : Symbol → Nat
  | char c => c.utf8Size
  | stray _ => 1

/-- The symbol is this character. -/
def isChar (s : Symbol) (c : Char) : Bool := s = char c

/-- The place after a symbol that starts at `p`. -/
def past (p : Place) : Symbol → Place
  | char c => p.past c
  | stray _ => p.forward 1

/-- The place one byte into the text: past a one-byte symbol, inside a longer one. -/
def pastByte (p : Place) : List Symbol → Place
  | [] => p
  | s :: _ => if s.byteSize = 1 then s.past p else p.forward 1

/-- The place `n` bytes into the text, or at its end when it is shorter. -/
def pastBytes (p : Place) (n : Nat) : List Symbol → Place
  | [] => p
  | s :: rest =>
    if n = 0 then p
    else if s.byteSize ≤ n then pastBytes (s.past p) (n - s.byteSize) rest
    else p.forward n

/-- The place after all of the text. -/
def pastAll (p : Place) : List Symbol → Place
  | [] => p
  | s :: rest => pastAll (s.past p) rest

/-- The symbols of a string are its characters. -/
def ofString (s : String) : List Symbol := s.toList.map char

/-- A byte that continues a character. -/
def isTail (b : UInt8) : Bool := 0x80 ≤ b && b ≤ 0xBF

/-- The second bytes that may follow a first byte of a three-byte character: overlong forms and
surrogates are excluded. -/
def isSecondOfThree (first second : UInt8) : Bool :=
  isTail second && (first != 0xE0 || 0xA0 ≤ second) && (first != 0xED || second ≤ 0x9F)

/-- The second bytes that may follow a first byte of a four-byte character: overlong forms and
values above the last code point are excluded. -/
def isSecondOfFour (first second : UInt8) : Bool :=
  isTail second && (first != 0xF0 || 0x90 ≤ second) && (first != 0xF4 || second ≤ 0x8F)

/-- The six payload bits of a tail byte. -/
def tailBits (b : UInt8) : Nat := b.toNat % 64

/-- The symbols of a byte text. A byte that starts no well-formed character is stray, and reading
goes on with the byte after it. -/
def ofBytes : List UInt8 → List Symbol
  | [] => []
  | a :: rest =>
    if a < 0x80 then char (Char.ofNat a.toNat) :: ofBytes rest
    else if 0xC2 ≤ a && a ≤ 0xDF then
      match rest with
      | b :: tail =>
        if isTail b then char (Char.ofNat (a.toNat % 32 * 64 + tailBits b)) :: ofBytes tail
        else stray a :: ofBytes (b :: tail)
      | [] => [stray a]
    else if 0xE0 ≤ a && a ≤ 0xEF then
      match rest with
      | b :: c :: tail =>
        if isSecondOfThree a b && isTail c then
          char (Char.ofNat (a.toNat % 16 * 4096 + tailBits b * 64 + tailBits c)) :: ofBytes tail
        else stray a :: ofBytes (b :: c :: tail)
      | [b] => stray a :: ofBytes [b]
      | [] => [stray a]
    else if 0xF0 ≤ a && a ≤ 0xF4 then
      match rest with
      | b :: c :: d :: tail =>
        if isSecondOfFour a b && isTail c && isTail d then
          char (Char.ofNat
            (a.toNat % 8 * 262144 + tailBits b * 4096 + tailBits c * 64 + tailBits d)) ::
            ofBytes tail
        else stray a :: ofBytes (b :: c :: d :: tail)
      | [b, c] => stray a :: ofBytes [b, c]
      | [b] => stray a :: ofBytes [b]
      | [] => [stray a]
    else stray a :: ofBytes rest

/-- The string that the symbols spell, when none of them is stray. -/
def toString? (symbols : List Symbol) : Option String :=
  (symbols.mapM fun
    | char c => some c
    | stray _ => none).map String.ofList

end Symbol

end SchemaDialogue
