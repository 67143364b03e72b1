import SchemaDialogue.Json.Scan

/-!
# Tokens of a JSON text

A text is a stream of tokens and ends with the place of its end. Each token knows the place before
it, the place after its first byte and the place after it, since faults are reported at any of the
three. Blanks between tokens are space, tab, line feed and carriage return.

A leaf whose strict reading fails but that has an end is still a token, because a member that nobody
asks for may hold it. A leaf without an end is the last token of its stream.
-/

namespace SchemaDialogue

/-- The words that JSON knows. -/
inductive Word where
  | null
  | true
  | false
deriving DecidableEq

/-- What kind of leaf a broken token has begun. -/
inductive Beginning where
  | word (w : Word)
  | numeral
  | text
deriving DecidableEq

inductive TokenKind where
  | beginArray
  | endArray
  | beginObject
  | endObject
  | comma
  | colon
  | word (w : Word)
  | numeral (value : Except Fault Number)
  | text (value : Except Fault String)
  | broken (beginning : Beginning) (strict lax : Fault)
  | stray

/-- A token and its places. -/
structure Token where
  kind : TokenKind
  start : Place
  peeked : Place
  stop : Place

/-- The tokens of a text, closed by the place where the text ends. -/
inductive Stream where
  | finish (place : Place)
  | token (first : Token) (rest : Stream)

namespace Word

/-- The characters of a word after its first. -/
def tail : Word → List Char
  | null => "ull".toList
  | true => "rue".toList
  | false => "alse".toList

end Word

namespace Stream

def length : Stream → Nat
  | finish _ => 0
  | token _ rest => rest.length + 1

/-- The place before the next token, or the end of the text. -/
def start : Stream → Place
  | finish p => p
  | token t _ => t.start

/-- The place after the first byte of the next token, or the end of the text. -/
def peeked : Stream → Place
  | finish p => p
  | token t _ => t.peeked

/-- A stream of one broken token. -/
def broken (beginning : Beginning) (start : Place) (strict lax : Fault) : Stream :=
  token ⟨.broken beginning strict lax, start, start.forward 1, start.forward 1⟩
    (finish (start.forward 1))

/-- Is this character a blank between tokens? -/
def isBlank (c : Char) : Bool := c = ' ' || c = '\n' || c = '\t' || c = '\r'

/-- The kind of a token that is one character. -/
def punctuation? : Char → Option TokenKind
  | '[' => some .beginArray
  | ']' => some .endArray
  | '{' => some .beginObject
  | '}' => some .endObject
  | ',' => some .comma
  | ':' => some .colon
  | _ => none

/-- The word that starts with a character. -/
def word? : Char → Option Word
  | 'n' => some .null
  | 't' => some .true
  | 'f' => some .false
  | _ => none

/-- The tokens of a text that starts at `p`. -/
def scan (p : Place) : List Symbol → Stream
  | [] => finish p
  | .stray byte :: rest =>
    token ⟨.stray, p, p.forward 1, Symbol.past p (.stray byte)⟩ (scan (p.forward 1) rest)
  | .char c :: rest =>
    let next := p.past c
    let peeked := Symbol.pastByte p (.char c :: rest)
    if isBlank c then scan next rest
    else if let some kind := punctuation? c then token ⟨kind, p, peeked, next⟩ (scan next rest)
    else if let some w := word? c then
      match h : Scan.word next w.tail rest with
      | .ok (stop, after) =>
        have : after.length ≤ rest.length := Scan.word_length h
        token ⟨.word w, p, peeked, stop⟩ (scan stop after)
      | .error fault => broken (.word w) p fault fault
    else if c = '"' then
      match h : Scan.quoted {} next rest with
      | .closed value stop after =>
        have : after.length < rest.length := Scan.quoted_length h
        token ⟨.text value, p, peeked, stop⟩ (scan stop after)
      | .cut strict lax => broken .text p strict lax
    else if c = '-' then
      match h : Scan.numeral next true rest with
      | .closed value stop after =>
        have : after.length < rest.length := Scan.numeral_length h
        token ⟨.numeral value, p, peeked, stop⟩ (scan stop after)
      | .cut strict lax => broken .numeral p strict lax
    else if c.isDigit then
      match h : Scan.numeral p false (.char c :: rest) with
      | .closed value stop after =>
        have : after.length < (Symbol.char c :: rest).length := Scan.numeral_length h
        token ⟨.numeral value, p, peeked, stop⟩ (scan stop after)
      | .cut strict lax => broken .numeral p strict lax
    else token ⟨.stray, p, peeked, next⟩ (scan next rest)
termination_by text => text.length
decreasing_by all_goals simp only [List.length_cons] at *; omega

def ofSymbols (text : List Symbol) : Stream := scan .start text

end Stream

/-- The value of a text that is one numeral and nothing else. -/
def Number.ofText? (s : String) : Option Number :=
  let read := fun negative text =>
    match Scan.numeral .start negative text with
    | .closed (.ok value) _ [] => some value
    | _ => none
  match Symbol.ofString s with
  | .char '-' :: rest => read true rest
  | text => read false text

end SchemaDialogue
