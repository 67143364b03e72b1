import SchemaDialogue.Text.Visible

/-!
# Quoted texts

Messages show a text between double quotes. Inside, the quote, the backslash, tab, newline, carriage
return and zero have two-character escapes, and every other character that a reader could not see is
written by its code point, as in `\u{200b}`.
-/

namespace SchemaDialogue.Text

/-- The escape of a code point in hexadecimal. -/
def codePointEscape (c : Char) : List Char :=
  '\\' :: 'u' :: '{' :: (Nat.toDigits 16 c.toNat ++ ['}'])

/-- Is this character written by its code point? -/
def isHidden (c : Char) : Bool :=
  if c.toNat < 0x80 then c < ' ' || c = '\x7f' else Visible.hidden c.toNat

/-- The characters that a character of a text is shown as. -/
def quotedChar (c : Char) : List Char :=
  match c with
  | '"' => ['\\', '"']
  | '\\' => ['\\', '\\']
  | '\t' => ['\\', 't']
  | '\n' => ['\\', 'n']
  | '\r' => ['\\', 'r']
  | '\x00' => ['\\', '0']
  | c => if isHidden c then codePointEscape c else [c]

/-- The text between quotes. -/
def quoted (s : String) : String :=
  String.ofList ('"' :: (s.toList.flatMap quotedChar ++ ['"']))

end SchemaDialogue.Text
