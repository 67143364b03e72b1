import SchemaDialogue.Json.Print
import SchemaDialogue.Json.Scan
import SchemaDialogue.Text.Symbol

/-!
# Percent escapes

A byte is escaped as a percent sign and two hexadecimal digits. Which characters have to be escaped
depends on the part of an address; those beyond ASCII always have to be.
-/

namespace SchemaDialogue.Escape

/-- Is this a control character, or one beyond ASCII? -/
def outsideText (c : Char) : Bool := c.toNat < 0x20 || 0x7f ≤ c.toNat

/-- Must this character be escaped in a fragment? -/
def inFragment (c : Char) : Bool := outsideText c || " \"<>`".toList.contains c

/-- Must this character be escaped in a path? -/
def inPath (c : Char) : Bool := inFragment c || "#?\x7b\x7d".toList.contains c

/-- Must this character be escaped in a query, perhaps of an address whose scheme is well known? -/
def inQuery (wellKnown : Bool) (c : Char) : Bool :=
  outsideText c || " \"#<>".toList.contains c || (wellKnown && c = '\'')

/-- Must this character be escaped in the name or password of a user? -/
def inUser (c : Char) : Bool := inPath c || "/:;=@[\\]^|".toList.contains c

def byte (b : UInt8) : List Char :=
  ['%', (Json.hexDigit (b.toNat / 16)).toUpper, (Json.hexDigit (b.toNat % 16)).toUpper]

def bytes (c : Char) : List UInt8 := (String.singleton c).toUTF8.toList

/-- A text in which the characters that have to be are escaped. -/
def text (mustEscape : Char → Bool) (text : List Char) : List Char :=
  text.flatMap fun c => if mustEscape c then (bytes c).flatMap byte else [c]

/-- The bytes of a text, where an escape stands for its byte. -/
def decode : List Char → List UInt8
  | [] => []
  | '%' :: high :: low :: rest =>
    match Scan.hexDigit? (.char high), Scan.hexDigit? (.char low) with
    | some h, some l => UInt8.ofNat (h * 16 + l) :: decode rest
    | _, _ => bytes '%' ++ decode (high :: low :: rest)
  | c :: rest => bytes c ++ decode rest

/-- The text that is meant by a text with escapes, if its bytes are one. -/
def decodeText? (text : List Char) : Option (List Char) :=
  (Symbol.toString? (Symbol.ofBytes (decode text))).map String.toList

end SchemaDialogue.Escape
