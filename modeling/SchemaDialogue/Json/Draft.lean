import SchemaDialogue.Json.Basic
import SchemaDialogue.Json.Token

/-!
# Drafts

A draft is the tree of a JSON text as far as the text goes. It keeps repeated members, and it keeps
the tokens around each value, so that a reader of the tree can report faults and mismatches at the
places where a reader of the text would have met them. A list of items or members ends either closed
or stuck before a token that does not belong there.

Nothing is judged while a draft is built: a draft of any text exists, and nesting has no limit.
-/

namespace SchemaDialogue

/-- What a list of items or members was waiting for when it got stuck. -/
inductive Wanted where
  | item
  | itemAfterComma
  | commaOrListEnd
  | key
  | keyAfterComma
  | commaOrObjectEnd
deriving DecidableEq

/-- How a list of items or members ends. -/
inductive Ending where
  | closed (closing : Token)
  | stuck (wanted : Wanted) (before : Stream)

/-- A member's key and the tokens after it. -/
structure DraftKey where
  token : Token
  after : Stream

/-- The tree of a JSON text as far as the text goes. -/
inductive Draft where
  /-- The text ends where a value should start. -/
  | absent (place : Place)
  /-- A value that cannot be reached because its colon is missing. -/
  | barred (fault : Fault)
  | leaf (token : Token) (after : Stream)
  | array (opening : Token) (items : List Draft) (ending : Ending) (after : Stream)
  | object (opening : Token) (members : List (DraftKey × Draft)) (ending : Ending) (after : Stream)

namespace Wanted

/-- The fault a strict reading reports before a token that does not belong there. -/
def strictFault : Wanted → Stream → Fault
  | item, s => ⟨.endInList, s.peeked⟩
  | itemAfterComma, s => ⟨.trailingComma, s.peeked⟩
  | commaOrListEnd, .finish p => ⟨.endInList, p⟩
  | commaOrListEnd, s => ⟨.expectedCommaOrListEnd, s.peeked⟩
  | key, .finish p => ⟨.endInObject, p⟩
  | keyAfterComma, .finish p => ⟨.endInValue, p⟩
  | keyAfterComma, .token ⟨.endObject, _, peeked, _⟩ _ => ⟨.trailingComma, peeked⟩
  | key, .token ⟨.broken .text strict _, _, _, _⟩ _ => strict
  | keyAfterComma, .token ⟨.broken .text strict _, _, _, _⟩ _ => strict
  | key, s => ⟨.keyNotString, s.peeked⟩
  | keyAfterComma, s => ⟨.keyNotString, s.peeked⟩
  | commaOrObjectEnd, .finish p => ⟨.endInObject, p⟩
  | commaOrObjectEnd, s => ⟨.expectedCommaOrObjectEnd, s.peeked⟩

/-- The fault a lax reading reports there. -/
def laxFault : Wanted → Stream → Fault
  | itemAfterComma, s => ⟨.expectedValue, s.peeked⟩
  | keyAfterComma, .finish p => ⟨.endInObject, p⟩
  | key, .token ⟨.broken .text _ lax, _, _, _⟩ _ => lax
  | keyAfterComma, .token ⟨.broken .text _ lax, _, _, _⟩ _ => lax
  | keyAfterComma, s => ⟨.keyNotString, s.peeked⟩
  | wanted, s => wanted.strictFault s

end Wanted

namespace Draft

/-- The tokens after a draft. -/
def after : Draft → Stream
  | absent p => .finish p
  | barred fault => .finish fault.place
  | leaf _ rest => rest
  | array _ _ _ rest => rest
  | object _ _ _ rest => rest

/-- The draft `c` is smaller than `d`, as its items and the values of its members are. -/
def Below (d c : Draft) : Prop := sizeOf c < sizeOf d

/-- A value that should follow a key: what stands in place of the colon bars it. -/
def barredBefore (s : Stream) : Draft :=
  match s with
  | .finish p => barred ⟨.endInObject, p⟩
  | .token t _ => barred ⟨.expectedColon, t.peeked⟩

/-- Items or members, how they end, and the tokens after them, no more than were given. -/
abbrev Listing (α : Type) (s : Stream) :=
  { r : List α × Ending × Stream // r.2.2.length ≤ s.length }

/-- Put an item in front of a listing of shorter streams. -/
def Listing.cons {α : Type} {s t : Stream} (h : s.length ≤ t.length) (a : α) (l : Listing α s) :
    Listing α t :=
  ⟨(a :: l.1.1, l.1.2.1, l.1.2.2), Nat.le_trans l.2 h⟩

/-- A listing that ends here. -/
def Listing.stuck {α : Type} (wanted : Wanted) (s : Stream) : Listing α s :=
  ⟨([], .stuck wanted s, s), Nat.le_refl _⟩

/-- A listing that ends with its closing token. -/
def Listing.closed {α : Type} (t : Token) (rest : Stream) : Listing α (.token t rest) :=
  ⟨([], .closed t, rest), Nat.le_succ _⟩

mutual

/-- The draft at the front of a stream. -/
def build (s : Stream) : { d : Draft // d.after.length ≤ s.length } :=
  match s with
  | .finish p => ⟨absent p, Nat.le_refl _⟩
  | .token t rest =>
    match t.kind with
    | .beginArray =>
      let l := firstItem rest
      ⟨array t l.1.1 l.1.2.1 l.1.2.2, Nat.le_succ_of_le l.2⟩
    | .beginObject =>
      let l := firstMember rest
      ⟨object t l.1.1 l.1.2.1 l.1.2.2, Nat.le_succ_of_le l.2⟩
    | _ => ⟨leaf t rest, Nat.le_succ _⟩
termination_by (s.length, 0)
decreasing_by
  all_goals simp only [Prod.lex_def, Stream.length] at *; omega

/-- The items after an opening bracket. -/
def firstItem (s : Stream) : Listing Draft s :=
  match s with
  | .finish p => .stuck .item (.finish p)
  | .token t rest =>
    match t.kind with
    | .endArray => .closed t rest
    | _ => items (.token t rest)
termination_by (s.length, 2)
decreasing_by exact .right _ (by decide)

/-- The items from a place where one is due. -/
def items (s : Stream) : Listing Draft s :=
  let first := build s
  have hs := first.2
  match h : first.1.after with
  | .finish p => ⟨([first.1], .stuck .commaOrListEnd (.finish p), .finish p), Nat.zero_le _⟩
  | .token t rest =>
    have ht : rest.length + 1 ≤ s.length := by rw [h] at hs; exact hs
    match t.kind with
    | .endArray => ⟨([first.1], .closed t, rest), by dsimp only; omega⟩
    | .comma =>
      match rest with
      -- No item follows the last comma.
      | .token ⟨.endArray, a, b, c⟩ tail =>
        ⟨([first.1], .stuck .itemAfterComma (.token ⟨.endArray, a, b, c⟩ tail),
          .token ⟨.endArray, a, b, c⟩ tail), by simp only [Stream.length] at *; omega⟩
      | next => .cons (by omega) first.1 (items next)
    | _ => ⟨([first.1], .stuck .commaOrListEnd (.token t rest), .token t rest), ht⟩
termination_by (s.length, 1)
decreasing_by
  · exact .right _ (by decide)
  · exact .left _ _ (by omega)

/-- The members after an opening brace. -/
def firstMember (s : Stream) : Listing (DraftKey × Draft) s :=
  match s with
  | .finish p => .stuck .key (.finish p)
  | .token t rest =>
    match t.kind with
    | .endObject => .closed t rest
    | .text _ => members t rest
    | _ => .stuck .key (.token t rest)
termination_by (s.length, 0)
decreasing_by
  all_goals simp only [Prod.lex_def, Stream.length] at *; omega

/-- The members from one whose key is `key`. -/
def members (key : Token) (s : Stream) : Listing (DraftKey × Draft) (.token key s) :=
  match s with
  | .token ⟨.colon, _, _, _⟩ rest =>
    let value := build rest
    have hs := value.2
    match h : value.1.after with
    | .finish p =>
      ⟨([(⟨key, s⟩, value.1)], .stuck .commaOrObjectEnd (.finish p), .finish p), Nat.zero_le _⟩
    | .token t tail =>
      have ht : tail.length + 1 ≤ rest.length := by rw [h] at hs; exact hs
      match t.kind with
      | .endObject =>
        ⟨([(⟨key, s⟩, value.1)], .closed t, tail), by simp only [Stream.length]; omega⟩
      | .comma =>
        match tail with
        -- Only a text can be the next key.
        | .token ⟨.text v, a, b, c⟩ more =>
          .cons (by simp only [Stream.length] at *; omega) (⟨key, s⟩, value.1)
            (members ⟨.text v, a, b, c⟩ more)
        | next =>
          ⟨([(⟨key, s⟩, value.1)], .stuck .keyAfterComma next, next), by
            simp only [Stream.length] at *; omega⟩
      | _ =>
        ⟨([(⟨key, s⟩, value.1)], .stuck .commaOrObjectEnd (.token t tail), .token t tail), by
          simp only [Stream.length] at *; omega⟩
  | other =>
    ⟨([(⟨key, s⟩, barredBefore other)], .stuck .commaOrObjectEnd other, other), Nat.le_succ _⟩
termination_by (s.length, 0)
decreasing_by
  all_goals simp only [Prod.lex_def, Stream.length] at *; omega

end

def ofSymbols (text : List Symbol) : Draft := (build (Stream.ofSymbols text)).1

def ofString (text : String) : Draft := ofSymbols (Symbol.ofString text)

end Draft

end SchemaDialogue
