import SchemaDialogue.Json.Basic

/-!
# Writing JSON

The compact text has no blanks; the indented text puts every item and member on its own line. Both
escape the quote, the backslash and the characters below the space, and write all others as they
are.
-/

namespace SchemaDialogue.Json

/-- A hexadecimal digit in lower case. -/
def hexDigit (n : Nat) : Char :=
  if n < 10 then Char.ofNat ('0'.toNat + n) else Char.ofNat ('a'.toNat + (n - 10))

/-- The characters that a character of a string is written as. -/
def escape (c : Char) : List Char :=
  match c with
  | '"' => ['\\', '"']
  | '\\' => ['\\', '\\']
  | '\x08' => ['\\', 'b']
  | '\x0c' => ['\\', 'f']
  | '\n' => ['\\', 'n']
  | '\r' => ['\\', 'r']
  | '\t' => ['\\', 't']
  | c =>
    if c < ' ' then ['\\', 'u', '0', '0', hexDigit (c.toNat / 16), hexDigit (c.toNat % 16)]
    else [c]

/-- The characters of a quoted string. -/
def quotedChars (s : String) : List Char := '"' :: (s.toList.flatMap escape ++ ['"'])

def quote (s : String) : String := String.ofList (quotedChars s)

/-- The characters of a leaf; none for an array or an object. -/
def leafChars : Json → List Char
  | null => "null".toList
  | bool true => "true".toList
  | bool false => "false".toList
  | number n => n.text.toList
  | string s => quotedChars s
  | array _ => []
  | object _ => []

mutual

/-- The characters of the compact text. -/
def compactChars : Json → List Char
  | array items => '[' :: (itemChars items ++ [']'])
  | object members => '{' :: (memberChars members ++ ['}'])
  | leaf => leafChars leaf

/-- The items with commas between them. -/
def itemChars : List Json → List Char
  | [] => []
  | [v] => compactChars v
  | v :: w :: rest => compactChars v ++ ',' :: itemChars (w :: rest)

/-- The members with commas between them. -/
def memberChars : List (String × Json) → List Char
  | [] => []
  | [(k, v)] => quotedChars k ++ ':' :: compactChars v
  | (k, v) :: m :: rest => quotedChars k ++ ':' :: compactChars v ++ ',' :: memberChars (m :: rest)

end

def compact (v : Json) : String := String.ofList v.compactChars

/-- A new line, indented by two blanks per level. -/
def newLine (level : Nat) : List Char := '\n' :: List.replicate (2 * level) ' '

mutual

/-- The characters of the indented text at a level. -/
def indentedChars (level : Nat) : Json → List Char
  | array [] => ['[', ']']
  | object [] => ['{', '}']
  | array items => '[' :: (indentedItems (level + 1) items ++ newLine level ++ [']'])
  | object members => '{' :: (indentedMembers (level + 1) members ++ newLine level ++ ['}'])
  | leaf => leafChars leaf

/-- The items, each on its own line. -/
def indentedItems (level : Nat) : List Json → List Char
  | [] => []
  | [v] => newLine level ++ indentedChars level v
  | v :: w :: rest =>
    newLine level ++ indentedChars level v ++ ',' :: indentedItems level (w :: rest)

/-- The members, each on its own line. -/
def indentedMembers (level : Nat) : List (String × Json) → List Char
  | [] => []
  | [(k, v)] => newLine level ++ quotedChars k ++ ':' :: ' ' :: indentedChars level v
  | (k, v) :: m :: rest =>
    newLine level ++ quotedChars k ++ ':' :: ' ' :: indentedChars level v ++
      ',' :: indentedMembers level (m :: rest)

end

def indented (v : Json) : String := String.ofList (v.indentedChars 0)

end SchemaDialogue.Json
