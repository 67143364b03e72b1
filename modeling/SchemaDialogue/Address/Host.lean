import SchemaDialogue.Address.Escape
import SchemaDialogue.Domain.Ascii
import SchemaDialogue.Text.Digits

/-!
# Hosts

The host of an address is named by a domain or by its number in the network, which is of one of two
kinds. A number of the first kind has four bytes and may be written in at most four parts, each in
decimal, octal or hexadecimal, the last of which fills what is left. One of the second kind has
eight pieces between colons; two colons in a row stand for as many zeros as are missing, and the
last two pieces may be written as a number of the first kind.
-/

namespace SchemaDialogue

inductive Host where
  | name (text : String)
  | ofBytes (number : UInt32)
  | ofPieces (pieces : List UInt16)
deriving DecidableEq

namespace Host

/-! ## Numbers of four bytes -/

/-- The value of digits of a base. -/
def valueIn? (base : Nat) (digits : List Char) : Option Nat := do
  let values ← digits.mapM fun c => Scan.hexDigit? (.char c)
  if values.all (· < base) then pure (values.foldl (· * base + ·) 0) else none

/-- A part of a number: hexadecimal behind `0x`, octal behind any other zero, or decimal. -/
def part? : List Char → Option Nat
  | [] => none
  | '0' :: 'x' :: digits => valueIn? 16 digits
  | '0' :: 'X' :: digits => valueIn? 16 digits
  | '0' :: digit :: digits => valueIn? 8 (digit :: digits)
  | digits => valueIn? 10 digits

/-- The parts between dots; a dot at the end does not count. -/
def dotted (text : List Char) : List (List Char) :=
  match (Domain.splitDots text).reverse with
  | [] :: last :: parts => (last :: parts).reverse
  | parts => parts.reverse

/-- Does a domain end like a number? Then it has to be one. -/
def endsInNumber (text : List Char) : Bool :=
  (dotted text).getLast?.any fun last =>
    (!last.isEmpty && last.all Char.isDigit) || (part? last).isSome

/-- The number of four bytes that a text writes. -/
def bytes? (text : List Char) : Option UInt32 := do
  let parts ← (dotted text).mapM part?
  let last ← parts.getLast?
  let front := parts.dropLast
  -- The last part fills all the bytes that the others leave.
  if 4 < parts.length || front.any (255 < ·) || 256 ^ (4 - front.length) ≤ last then none
  else
    let weighted := front.zipIdx.map fun (part, place) => part * 256 ^ (3 - place)
    pure (UInt32.ofNat (weighted.foldl (· + ·) last))

/-- The text of a number of four bytes. -/
def bytesText (number : UInt32) : String :=
  String.intercalate "." ([24, 16, 8, 0].map fun shift =>
    toString (number.toNat / 2 ^ shift % 256))

/-! ## Numbers of eight pieces -/

/-- A byte of a number of four bytes, in decimal without zeros in front. -/
def decimalByte? (digits : List Char) : Option Nat :=
  match digits with
  | '0' :: _ :: _ => none
  | digits => (Text.decimal? digits).filter (· ≤ 255)

/-- The two pieces that four decimal bytes write. -/
def decimalPieces? (text : List Char) : Option (List Nat) := do
  match ← (Domain.splitDots text).mapM decimalByte? with
  | [a, b, c, d] => pure [a * 256 + b, c * 256 + d]
  | _ => none

/-- A piece: one to four hexadecimal digits. -/
def piece? (text : List Char) : Option Nat :=
  if text.isEmpty || 4 < text.length then none else valueIn? 16 text

/-- The parts of a text between colons; at least one. -/
def splitColons : List Char → List (List Char)
  | [] => [[]]
  | c :: rest =>
    match splitColons rest with
    | [] => [[c]]
    | part :: parts => if c = ':' then [] :: part :: parts else (c :: part) :: parts

/-- The pieces of parts between colons; only the last may be decimal bytes. -/
def pieces? : List (List Char) → Option (List Nat)
  | [] => some []
  | [last] => if last.contains '.' then decimalPieces? last else (piece? last).map ([·])
  | part :: rest => do pure ((← piece? part) :: (← pieces? rest))

/-- The pieces of a text; none when it is empty. -/
def piecesOf? (text : List Char) : Option (List Nat) :=
  if text.isEmpty then some [] else pieces? (splitColons text)

/-- The texts before and after the first two colons in a row, if there are any. -/
def splitGap? : List Char → Option (List Char × List Char)
  | ':' :: ':' :: after => some ([], after)
  | c :: rest => (splitGap? rest).map fun (before, after) => (c :: before, after)
  | [] => none

/-- The number of eight pieces that a text writes. -/
def eightPieces? (text : List Char) : Option (List UInt16) := do
  match splitGap? text with
  | none =>
    let pieces ← pieces? (splitColons text)
    if pieces.length = 8 then pure (pieces.map UInt16.ofNat) else none
  | some (before, after) =>
    let front ← piecesOf? before
    let back ← piecesOf? after
    let missing := 8 - (front.length + back.length)
    -- The gap stands for at least one zero, and decimal bytes can only come last.
    if before.contains '.' || missing = 0 then none
    else pure ((front ++ List.replicate missing 0 ++ back).map UInt16.ofNat)

/-- The pieces in hexadecimal with colons between them. -/
def joinPieces (pieces : List UInt16) : String :=
  String.intercalate ":" (pieces.map fun p => String.ofList (Nat.toDigits 16 p.toNat))

/-- How many zeros are at the front? -/
def zerosAtFront (pieces : List UInt16) : Nat := (pieces.takeWhile (· = 0)).length

/-- Where the first of the longest runs of zeros starts, and its length. -/
def longestZeros (pieces : List UInt16) : Nat × Nat :=
  (List.range pieces.length).foldl
    (fun best start =>
      let length := zerosAtFront (pieces.drop start)
      if best.2 < length then (start, length) else best)
    (0, 0)

/-- The text of eight pieces: two or more zeros in a row are left out once. -/
def piecesText (pieces : List UInt16) : String :=
  let (start, length) := longestZeros pieces
  if length < 2 then joinPieces pieces
  else joinPieces (pieces.take start) ++ "::" ++ joinPieces (pieces.drop (start + length))

/-! ## Hosts -/

def text : Host → String
  | name text => text
  | ofBytes number => bytesText number
  | ofPieces pieces => "[" ++ piecesText pieces ++ "]"

/-- Characters that the name of a host never holds. -/
def isForbidden (c : Char) : Bool := "\x00\t\n\r #/:<>?@[\\]^|".toList.contains c

/-- Characters that a domain does not hold in its ASCII form. -/
def isForbiddenInDomain (c : Char) : Bool :=
  isForbidden c || c.toNat < 0x20 || c = '%' || c = '\x7f'

/-- The number of eight pieces in brackets, if a text starts with one. -/
def bracketed? (text : List Char) : Option (Option Host) :=
  match text with
  | '[' :: rest =>
    some (if rest.getLast? = some ']' then (eightPieces? rest.dropLast).map ofPieces else none)
  | _ => none

/-- The host that a text names where hosts are looked up in the network. -/
def ofDomain? (text : List Char) : Option Host :=
  match bracketed? text with
  | some host => host
  | none => do
    let ascii ← Domain.ascii? (← Escape.decodeText? text)
    if ascii.isEmpty || ascii.any isForbiddenInDomain then none
    else if endsInNumber ascii then (bytes? ascii).map ofBytes
    else pure (name (String.ofList ascii))

/-- The host that a text names where nothing is known about hosts. -/
def ofOpaque? (text : List Char) : Option Host :=
  match bracketed? text with
  | some host => host
  | none =>
    if text.any isForbidden then none
    else some (name (String.ofList (Escape.text Escape.outsideText text)))

end Host

end SchemaDialogue
