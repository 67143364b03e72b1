import SchemaDialogue.Interface.Render
import SchemaDialogue.Proofs.Scanning

/-!
# Formats

A format says how items are written and what may follow a written item. An item is clear in a format
when the end of its text can be told: no text of a valid item, followed by what may follow, can be
taken for the text of an item with another meaning, or of the same with less or more to follow
(`Format.Clear`). Formats are put together: a list of clear items is clear where a separator stands
between them (`Format.Clear.separated`).

Words end where a character follows that is none of theirs (`append_eq_of_all`); quoted texts end by
themselves (`quotedChars_append`); the brackets of arrays end where no bracket follows
(`brackets_append`).
-/

namespace SchemaDialogue

variable {α β : Type}

/-! ## What may follow -/

/-- The text does not begin with such a character. -/
def Avoids (p : Char → Bool) (text : List Char) : Prop := ∀ c ∈ text.head?, p c = false

theorem avoids_cons {p : Char → Bool} {c : Char} {text : List Char} :
    Avoids p (c :: text) ↔ p c = false := by
  refine ⟨fun h => h c rfl, fun h d hd => ?_⟩
  cases hd
  exact h

theorem Avoids.mono {p q : Char → Bool} {text : List Char} (h : Avoids p text)
    (weaker : ∀ c, p c = false → q c = false) : Avoids q text := fun c hc => weaker c (h c hc)

theorem Avoids.takeWhile {p : Char → Bool} {text : List Char} (h : Avoids p text) :
    text.takeWhile p = [] := by
  cases text with
  | nil => rfl
  | cons c text => rw [List.takeWhile_cons, avoids_cons.mp h]; rfl

/-- Words end where a character follows that is none of theirs. -/
theorem append_eq_of_all {p : Char → Bool} {w w' s t : List Char} (word : ∀ c ∈ w, p c)
    (word' : ∀ c ∈ w', p c) (hs : Avoids p s) (ht : Avoids p t) (same : w ++ s = w' ++ t) :
    w = w' ∧ s = t := by
  have read := congrArg (List.takeWhile p) same
  rw [List.takeWhile_append_of_pos word, List.takeWhile_append_of_pos word', hs.takeWhile,
    ht.takeWhile, List.append_nil, List.append_nil] at read
  subst read
  exact ⟨rfl, List.append_cancel_left same⟩

/-- Quoted texts end by themselves. -/
theorem quotedChars_append {a b : String} {s t : List Char}
    (same : Json.quotedChars a ++ s = Json.quotedChars b ++ t) : a = b ∧ s = t := by
  have text : ∀ (a : String) (s : List Char), (Json.quotedChars a ++ s).map Symbol.char =
      .char '"' :: ((a.toList.flatMap Json.escape).map .char ++ .char '"' :: s.map .char) := by
    intro a s
    simp [Json.quotedChars]
  have inner := congrArg (List.map Symbol.char) same
  rw [text, text] at inner
  -- both are read by the same scan, which tells what has been quoted and what is left
  obtain ⟨q, read⟩ := Scan.quoted_chars a.toList (s.map .char) {} .start rfl rfl
  obtain ⟨q', read'⟩ := Scan.quoted_chars b.toList (t.map .char) {} .start rfl rfl
  rw [(List.cons.inj inner).2, read'] at read
  obtain ⟨value, -, rest⟩ := Scan.Leaf.closed.inj read
  have quoted : b.toList = a.toList := String.ofList_injective (Except.ok.inj value)
  have left : t = s := (List.map_inj_right fun _ _ => Symbol.char.inj).mp rest
  exact ⟨String.toList_injective quoted.symm, left.symm⟩

/-! ## Brackets -/

/-- A pair of brackets for each array around a type. -/
def brackets (depth : Nat) : List Char := (List.replicate depth ['[', ']']).flatten

theorem avoids_brackets {p : Char → Bool} {s : List Char} (bracket : p '[' = false)
    (h : Avoids p s) (depth : Nat) : Avoids p (brackets depth ++ s) := by
  cases depth with
  | zero => exact h
  | succ depth => exact avoids_cons.mpr bracket

/-- Pairs of brackets end where no bracket follows. -/
theorem brackets_append {k l : Nat} {s t : List Char} (hs : Avoids (· = '[') s)
    (ht : Avoids (· = '[') t) (same : brackets k ++ s = brackets l ++ t) : k = l ∧ s = t := by
  induction k generalizing l with
  | zero =>
    cases l with
    | zero => exact ⟨rfl, same⟩
    | succ l =>
      rw [show s = '[' :: _ from same] at hs
      cases avoids_cons.mp hs
  | succ k ih =>
    cases l with
    | zero =>
      rw [show t = '[' :: _ from same.symm] at ht
      cases avoids_cons.mp ht
    | succ l =>
      obtain ⟨rfl, rest⟩ := ih (l := l) (List.cons.inj (List.cons.inj same).2).2
      exact ⟨rfl, rest⟩

/-! ## Formats -/

/-- A way to write items: their texts, what these mean, which items are written, and which texts may
follow. -/
structure Format (α β : Type) where
  text : α → List Char
  meaning : α → β
  Valid : α → Prop
  Follows : List Char → Prop

namespace Format

variable {f : Format α β}

/-- The end of the item's text can be told, and what it means. -/
def Clear (f : Format α β) (a : α) : Prop :=
  ∀ {b s t}, f.Valid b → f.Follows s → f.Follows t → f.text a ++ s = f.text b ++ t →
    f.meaning a = f.meaning b ∧ s = t

/-- Items with a separator between them; what follows the last one is not taken for a separator. -/
def separated (f : Format α β) (separator : String) : Format (List α) (List β) where
  text items := separator.toList.intercalate (items.map f.text)
  meaning items := items.map f.meaning
  Valid items := items ≠ [] ∧ ∀ a ∈ items, f.Valid a
  Follows s := f.Follows s ∧ ¬separator.toList <+: s

theorem text_singleton (separator : String) (a : α) :
    (f.separated separator).text [a] = f.text a :=
  @List.intercalate_singleton _ separator.toList (f.text a)

theorem text_cons (separator : String) (a b : α) (rest : List α) :
    (f.separated separator).text (a :: b :: rest) =
      f.text a ++ (separator.toList ++ (f.separated separator).text (b :: rest)) := by
  rw [← List.append_assoc]
  exact List.intercalate_cons_cons

theorem exists_text_cons (separator : String) (a : α) (rest : List α) :
    ∃ more, (f.separated separator).text (a :: rest) = f.text a ++ more := by
  cases rest with
  | nil => exact ⟨[], by rw [text_singleton, List.append_nil]⟩
  | cons b rest => exact ⟨_, text_cons separator a b rest⟩

/-- Clear items are clear with a separator between them that may follow an item. -/
theorem Clear.separated {separator : String} {items : List α} (nonempty : items ≠ [])
    (next : ∀ s, f.Follows (separator.toList ++ s)) (clear : ∀ a ∈ items, f.Clear a) :
    (f.separated separator).Clear items := by
  intro items' s t valid hs ht same
  obtain ⟨nonempty', valid⟩ := valid
  -- after an item there is a separator in both texts, or in none
  induction items generalizing items' with
  | nil => exact absurd rfl nonempty
  | cons a rest ih =>
    cases items' with
    | nil => exact absurd rfl nonempty'
    | cons b rest' =>
      obtain ⟨clearA, clearRest⟩ := List.forall_mem_cons.mp clear
      obtain ⟨validB, validRest⟩ := List.forall_mem_cons.mp valid
      cases rest with
      | nil =>
        rw [text_singleton] at same
        cases rest' with
        | nil =>
          rw [text_singleton] at same
          obtain ⟨meaning, after⟩ := clearA validB hs.1 ht.1 same
          exact ⟨congrArg (fun m => [m]) meaning, after⟩
        | cons b' rest' =>
          rw [text_cons, List.append_assoc, List.append_assoc] at same
          obtain ⟨-, after⟩ := clearA validB hs.1 (next _) same
          exact absurd ⟨_, after.symm⟩ hs.2
      | cons a' rest =>
        rw [text_cons, List.append_assoc, List.append_assoc] at same
        cases rest' with
        | nil =>
          rw [text_singleton] at same
          obtain ⟨-, after⟩ := clearA validB (next _) ht.1 same
          exact absurd ⟨_, after⟩ ht.2
        | cons b' rest' =>
          rw [text_cons, List.append_assoc, List.append_assoc] at same
          obtain ⟨meaning, after⟩ := clearA validB (next _) (next _) same
          obtain ⟨meanings, after⟩ := ih (List.cons_ne_nil _ _) clearRest
            (List.append_cancel_left after) (List.cons_ne_nil _ _) validRest
          exact ⟨List.cons_eq_cons.mpr ⟨meaning, meanings⟩, after⟩

/-- Words of some characters. -/
def word (p : Char → Bool) : Format String String where
  text := String.toList
  meaning := id
  Valid w := ∀ c ∈ w.toList, p c
  Follows := Avoids p

theorem clear_word {p : Char → Bool} {w : String} (valid : (word p).Valid w) :
    (word p).Clear w := by
  intro w' s t valid' hs ht same
  obtain ⟨chars, after⟩ := append_eq_of_all valid valid' hs ht same
  exact ⟨String.toList_injective chars, after⟩

/-- Items with commas between them in angle brackets; nothing for no items. -/
def angled (f : Format α β) : List α → List Char
  | [] => []
  | a :: rest => '<' :: ((f.separated ", ").text (a :: rest) ++ ['>'])

theorem avoids_angled {p : Char → Bool} {s : List Char} (bracket : p '<' = false) (h : Avoids p s)
    (items : List α) : Avoids p (f.angled items ++ s) := by
  cases items with
  | nil => exact h
  | cons a rest => exact avoids_cons.mpr bracket

/-- Angle brackets end where no angle bracket follows. -/
theorem angled_append {items items' : List α} {s t : List Char} (clear : ∀ a ∈ items, f.Clear a)
    (valid : ∀ b ∈ items', f.Valid b) (next : ∀ s, f.Follows (", ".toList ++ s))
    (close : ∀ s, f.Follows ('>' :: s)) (hs : Avoids (· = '<') s) (ht : Avoids (· = '<') t)
    (same : f.angled items ++ s = f.angled items' ++ t) :
    items.map f.meaning = items'.map f.meaning ∧ s = t := by
  cases items with
  | nil =>
    cases items' with
    | nil => exact ⟨rfl, same⟩
    | cons b rest' =>
      rw [show s = '<' :: _ from same] at hs
      cases avoids_cons.mp hs
  | cons a rest =>
    cases items' with
    | nil =>
      rw [show t = '<' :: _ from same.symm] at ht
      cases avoids_cons.mp ht
    | cons b rest' =>
      rw [angled, angled, List.cons_append, List.cons_append, List.append_assoc,
        List.append_assoc] at same
      have noComma : ∀ s, ¬", ".toList <+: '>' :: s :=
        fun s h => absurd (List.cons_prefix_cons.mp h).1 (by decide)
      obtain ⟨meanings, after⟩ := Clear.separated (List.cons_ne_nil a rest) next clear
        ⟨List.cons_ne_nil b rest', valid⟩ ⟨close s, noComma s⟩ ⟨close t, noComma t⟩
        (List.cons.inj same).2
      exact ⟨meanings, (List.cons.inj after).2⟩

/-- Items that end by themselves end, one after the other, where a character follows that no item
begins with. -/
theorem Clear.flatMap {items items' : List α} {s t : List Char} (clear : ∀ a ∈ items, f.Clear a)
    (valid : ∀ a ∈ items, f.Valid a) (valid' : ∀ b ∈ items', f.Valid b)
    (next : ∀ s, f.Follows s) {close : Char}
    (begins : ∀ a, f.Valid a → ∃ c rest, f.text a = c :: rest ∧ c ≠ close)
    (same : items.flatMap f.text ++ close :: s = items'.flatMap f.text ++ close :: t) :
    items.map f.meaning = items'.map f.meaning ∧ s = t := by
  have no_item : ∀ a, f.Valid a → ∀ more u : List Char, f.text a ++ more ≠ close :: u := by
    intro a valid more u same
    obtain ⟨c, rest, text, other⟩ := begins a valid
    rw [text] at same
    exact other (List.cons.inj same).1
  induction items generalizing items' with
  | nil =>
    cases items' with
    | nil => exact ⟨rfl, (List.cons.inj same).2⟩
    | cons b rest' =>
      rw [List.flatMap_cons, List.append_assoc] at same
      exact absurd same.symm (no_item b (valid' b (.head _)) _ _)
  | cons a rest ih =>
    rw [List.flatMap_cons, List.append_assoc] at same
    cases items' with
    | nil => exact absurd same (no_item a (valid a (.head _)) _ _)
    | cons b rest' =>
      rw [List.flatMap_cons, List.append_assoc] at same
      obtain ⟨clearA, clearRest⟩ := List.forall_mem_cons.mp clear
      obtain ⟨_, validRest⟩ := List.forall_mem_cons.mp valid
      obtain ⟨validB, validRest'⟩ := List.forall_mem_cons.mp valid'
      obtain ⟨meaning, after⟩ := clearA validB (next _) (next _) same
      obtain ⟨meanings, after⟩ := ih clearRest validRest validRest' after
      exact ⟨List.cons_eq_cons.mpr ⟨meaning, meanings⟩, after⟩

end Format

end SchemaDialogue
