import SchemaDialogue.Proofs.Scanning
import SchemaDialogue.Proofs.Spelling
import SchemaDialogue.Proofs.Utf8

/-!
# What a written value is read as

The draft of the compact text of a value spells the value (`Draft.spells_compact`), provided that
its numbers are integers (`Json.Integral`).
-/

namespace SchemaDialogue

/-- All numbers in the value are integers. -/
inductive Json.Integral : Json → Prop
  | null : Integral .null
  | bool (b) : Integral (.bool b)
  | integer (n) : Integral (.number (.integer n))
  | string (s) : Integral (.string s)
  | array {items} : (∀ v ∈ items, Integral v) → Integral (.array items)
  | object {members} : (∀ m ∈ members, Integral m.2) → Integral (.object members)

namespace Draft

variable {s rest : Stream} {v : Json} {start peeked stop : Place}

/-! ## Building -/

theorem build_array (s : Stream) :
    (build (.token ⟨.beginArray, start, peeked, stop⟩ s)).1 =
      .array ⟨.beginArray, start, peeked, stop⟩ (firstItem s).1.1 (firstItem s).1.2.1
        (firstItem s).1.2.2 := by
  rw [build]

theorem build_object (s : Stream) :
    (build (.token ⟨.beginObject, start, peeked, stop⟩ s)).1 =
      .object ⟨.beginObject, start, peeked, stop⟩ (firstMember s).1.1 (firstMember s).1.2.1
        (firstMember s).1.2.2 := by
  rw [build]

/-- What spells a value does not start with a token that closes a list. -/
theorem Spells.not_endArray (spells : (build s).1.Spells v) :
    s ≠ .token ⟨.endArray, start, peeked, stop⟩ rest := by
  rintro rfl
  rw [build] at spells
  cases spells

theorem firstItem_of_spells (spells : (build s).1.Spells v) : (firstItem s).1 = (items s).1 := by
  rw [firstItem.eq_def]
  split
  · rename_i p
    rw [build] at spells
    cases spells
  · rename_i t rest
    obtain ⟨kind, start, peeked, stop⟩ := t
    cases kind with
    | endArray => exact absurd rfl spells.not_endArray
    | _ => rfl

/-- A list ends after an item that is followed by its closing bracket. -/
theorem items_close (after : (build s).1.after = .token ⟨.endArray, start, peeked, stop⟩ rest) :
    (items s).1 = ([(build s).1], .closed ⟨.endArray, start, peeked, stop⟩, rest) := by
  rw [items]
  dsimp only
  split
  · rename_i p finish
    rw [after] at finish
    cases finish
  · rename_i t tail token
    rw [after] at token
    cases token
    rfl

theorem items_comma (after : (build s).1.after = .token ⟨.comma, start, peeked, stop⟩ rest)
    (next : ∀ start peeked stop tail, rest ≠ .token ⟨.endArray, start, peeked, stop⟩ tail) :
    (items s).1 = ((build s).1 :: (items rest).1.1, (items rest).1.2) := by
  rw [items]
  dsimp only
  split
  · rename_i p finish
    rw [after] at finish
    cases finish
  · rename_i t tail token
    rw [after] at token
    cases token
    cases rest with
    | finish p => rfl
    | token t tail =>
      obtain ⟨kind, start, peeked, stop⟩ := t
      cases kind with
      | endArray => exact absurd rfl (next start peeked stop tail)
      | _ => rfl

/-- The members end after one that is followed by its closing brace. -/
theorem members_close {key colon : Token} (kind : colon.kind = .colon)
    (after : (build s).1.after = .token ⟨.endObject, start, peeked, stop⟩ rest) :
    (members key (.token colon s)).1 =
      ([(⟨key, .token colon s⟩, (build s).1)], .closed ⟨.endObject, start, peeked, stop⟩,
        rest) := by
  obtain ⟨kind, _, _, _⟩ := colon
  cases kind
  rw [members]
  dsimp only
  split
  · rename_i p finish
    rw [after] at finish
    cases finish
  · rename_i t tail token
    rw [after] at token
    cases token
    rfl

theorem members_comma {key colon next : Token} {text : Except Fault String}
    (kind : colon.kind = .colon) (nextKind : next.kind = .text text)
    (after : (build s).1.after = .token ⟨.comma, start, peeked, stop⟩ (.token next rest)) :
    (members key (.token colon s)).1 =
      ((⟨key, .token colon s⟩, (build s).1) :: (members next rest).1.1,
        (members next rest).1.2) := by
  obtain ⟨kind, _, _, _⟩ := colon
  cases kind
  obtain ⟨kind, _, _, _⟩ := next
  cases nextKind
  rw [members]
  dsimp only
  split
  · rename_i p finish
    rw [after] at finish
    cases finish
  · rename_i t tail token
    rw [after] at token
    cases token
    rfl

/-! ## Texts -/

/-- The draft of the written value spells it, and what follows the text follows the draft. -/
def Written (v : Json) : Prop :=
  ∀ (p : Place) (rest : List Symbol), Scan.Stops rest →
    (build (Stream.scan p (v.compactChars.map .char ++ rest))).1.Spells v ∧
      ∃ q, (build (Stream.scan p (v.compactChars.map .char ++ rest))).1.after = Stream.scan q rest

/-- The items of a list, when each one is read as it is written. -/
theorem items_written {first : Json} {more : List Json} (each : ∀ v ∈ first :: more, Written v)
    (p : Place) (rest : List Symbol) :
    let s := Stream.scan p ((Json.itemChars (first :: more)).map .char ++ .char ']' :: rest)
    (build s).1.Spells first ∧
      ∃ drafts closing q, (items s).1 = (drafts, .closed closing, Stream.scan q rest) ∧
        List.Forall₂ Spells drafts (first :: more) := by
  -- the first item is read up to the comma or the bracket after it
  induction more generalizing first p with
  | nil =>
    obtain ⟨spells, q, after⟩ := each first (.head _) p _ (Scan.stops_bracket rest)
    obtain ⟨_, _, _, q', closes⟩ := Stream.scan_bracket q rest
    rw [closes] at after
    exact ⟨spells, _, _, q', items_close after, .cons spells .nil⟩
  | cons second more ih =>
    have chars : (Json.itemChars (first :: second :: more)).map .char ++ .char ']' :: rest =
        first.compactChars.map .char ++
          .char ',' :: ((Json.itemChars (second :: more)).map .char ++ .char ']' :: rest) := by
      simp [Json.itemChars]
    rw [chars]
    obtain ⟨spells, q, after⟩ := each first (.head _) p _ (Scan.stops_comma _)
    obtain ⟨_, _, _, q', comma⟩ := Stream.scan_comma q
      ((Json.itemChars (second :: more)).map .char ++ .char ']' :: rest)
    obtain ⟨next, drafts, closing, stop, others, spelled⟩ :=
      ih (fun v mem => each v (.tail _ mem)) q'
    rw [comma] at after
    refine ⟨spells, _, closing, stop, ?_, .cons spells spelled⟩
    rw [items_comma after fun _ _ _ _ => next.not_endArray, others]

/-- A member is scanned as its key, a colon and its value. -/
theorem member_written (name : String) {value : Json} (written : Written value) (p : Place)
    {more : List Symbol} (stops : Scan.Stops more) :
    ∃ start peeked stop colon s q,
      Stream.scan p ((Json.quotedChars name).map .char ++
          .char ':' :: (value.compactChars.map .char ++ more)) =
        .token ⟨.text (.ok name), start, peeked, stop⟩ (.token colon s) ∧
      colon.kind = .colon ∧ (build s).1.Spells value ∧ (build s).1.after = Stream.scan q more := by
  obtain ⟨start, peeked, stop, q, key⟩ := Stream.scan_quotedChars p name
    (.char ':' :: (value.compactChars.map .char ++ more))
  obtain ⟨a, b, c, q', colon⟩ := Stream.scan_colon q (value.compactChars.map .char ++ more)
  obtain ⟨spells, q'', after⟩ := written q' more stops
  refine ⟨start, peeked, stop, ⟨.colon, a, b, c⟩, _, q'', ?_, rfl, spells, after⟩
  rw [key, colon]

/-- The members of an object, when each value is read as it is written. -/
theorem members_written {first : String × Json} {more : List (String × Json)}
    (each : ∀ m ∈ first :: more, Written m.2) (p : Place) (rest : List Symbol) :
    ∃ key tail drafts closing q,
      Stream.scan p ((Json.memberChars (first :: more)).map .char ++ .char '\x7d' :: rest) =
          .token key tail ∧
        key.kind = .text (.ok first.1) ∧
        (members key tail).1 = (drafts, .closed closing, Stream.scan q rest) ∧
        List.Forall₂ SpellsMember drafts (first :: more) := by
  obtain ⟨name, value⟩ := first
  induction more generalizing name value p with
  | nil =>
    have chars : (Json.memberChars [(name, value)]).map .char ++ .char '\x7d' :: rest =
        (Json.quotedChars name).map .char ++
          .char ':' :: (value.compactChars.map .char ++ .char '\x7d' :: rest) := by
      simp [Json.memberChars]
    obtain ⟨_, _, _, colon, s, q, scanned, kind, spells, after⟩ :=
      member_written name (each (name, value) (.head _)) p (Scan.stops_brace rest)
    obtain ⟨_, _, _, q', closes⟩ := Stream.scan_brace q rest
    rw [closes] at after
    exact ⟨_, _, _, _, q', chars ▸ scanned, rfl, members_close kind after, .cons (.mk spells) .nil⟩
  | cons second more ih =>
    have chars : (Json.memberChars ((name, value) :: second :: more)).map .char ++
          .char '\x7d' :: rest =
        (Json.quotedChars name).map .char ++ .char ':' :: (value.compactChars.map .char ++
          .char ',' :: ((Json.memberChars (second :: more)).map .char ++
            .char '\x7d' :: rest)) := by
      simp [Json.memberChars]
    obtain ⟨start, peeked, stop, colon, s, q, scanned, kind, spells, after⟩ :=
      member_written name (each (name, value) (.head _)) p (Scan.stops_comma _)
    obtain ⟨_, _, _, q', comma⟩ := Stream.scan_comma q
      ((Json.memberChars (second :: more)).map .char ++ .char '\x7d' :: rest)
    obtain ⟨next, tail, drafts, closing, q'', others, nextKind, listed, spelled⟩ :=
      ih q' second.1 second.2 fun m mem => each m (.tail _ mem)
    rw [comma, others] at after
    have key : SpellsMember (⟨⟨.text (.ok name), start, peeked, stop⟩, .token colon s⟩, (build s).1)
        (name, value) := .mk spells
    refine ⟨_, _, _, closing, q'', chars ▸ scanned, rfl, ?_, .cons key spelled⟩
    rw [members_comma kind nextKind after, listed]

/-- A text that starts with a leaf is read as that leaf. -/
theorem build_leaf {kind : TokenKind} {p : Place} {text rest : List Symbol}
    (begins : (Stream.scan p text).Begins kind rest) (list : kind ≠ .beginArray)
    (object : kind ≠ .beginObject) :
    ∃ start peeked stop q, (build (Stream.scan p text)).1 =
      .leaf ⟨kind, start, peeked, stop⟩ (Stream.scan q rest) := by
  obtain ⟨start, peeked, stop, q, scanned⟩ := begins
  refine ⟨start, peeked, stop, q, ?_⟩
  rw [scanned, build.eq_def]
  cases kind with
  | beginArray => exact absurd rfl list
  | beginObject => exact absurd rfl object
  | _ => rfl

theorem firstItem_written {items : List Json} (each : ∀ v ∈ items, Written v) (p : Place)
    (rest : List Symbol) :
    ∃ drafts closing q,
      (firstItem (Stream.scan p ((Json.itemChars items).map .char ++ .char ']' :: rest))).1 =
          (drafts, .closed closing, Stream.scan q rest) ∧
        List.Forall₂ Spells drafts items := by
  cases items with
  | nil =>
    obtain ⟨start, peeked, stop, q, closes⟩ := Stream.scan_bracket p rest
    refine ⟨[], ⟨.endArray, start, peeked, stop⟩, q, ?_, .nil⟩
    show (firstItem (Stream.scan p (.char ']' :: rest))).1 = _
    rw [closes, firstItem.eq_def]
    rfl
  | cons first more =>
    obtain ⟨spells, listed⟩ := items_written each p rest
    rw [firstItem_of_spells spells]
    exact listed

theorem firstMember_written {members : List (String × Json)} (each : ∀ m ∈ members, Written m.2)
    (p : Place) (rest : List Symbol) :
    ∃ drafts closing q,
      (firstMember
          (Stream.scan p ((Json.memberChars members).map .char ++ .char '\x7d' :: rest))).1 =
          (drafts, .closed closing, Stream.scan q rest) ∧
        List.Forall₂ SpellsMember drafts members := by
  cases members with
  | nil =>
    obtain ⟨start, peeked, stop, q, closes⟩ := Stream.scan_brace p rest
    refine ⟨[], ⟨.endObject, start, peeked, stop⟩, q, ?_, .nil⟩
    show (firstMember (Stream.scan p (.char '\x7d' :: rest))).1 = _
    rw [closes, firstMember.eq_def]
    rfl
  | cons first more =>
    obtain ⟨⟨kind, _, _, _⟩, tail, drafts, closing, q, scanned, text, listed, spelled⟩ :=
      members_written each p rest
    cases text
    refine ⟨drafts, closing, q, ?_, spelled⟩
    rw [scanned, firstMember.eq_def]
    exact listed

/-- An array is read as it is written when its items are. -/
theorem written_array {items : List Json} (each : ∀ v ∈ items, Written v) :
    Written (.array items) := by
  intro p rest stops
  have chars : (Json.array items).compactChars.map .char ++ rest =
      .char '[' :: ((Json.itemChars items).map .char ++ .char ']' :: rest) := by
    simp [Json.compactChars]
  obtain ⟨_, _, _, q, opening⟩ := Stream.scan_punctuation p
    ((Json.itemChars items).map .char ++ .char ']' :: rest)
    (show Stream.punctuation? '[' = some .beginArray from rfl) (by decide)
  obtain ⟨drafts, closing, q', listed, spelled⟩ := firstItem_written each q rest
  rw [chars, opening, build_array, listed]
  exact ⟨.array spelled, q', rfl⟩

/-- An object is read as it is written when the values of its members are. -/
theorem written_object {members : List (String × Json)} (each : ∀ m ∈ members, Written m.2) :
    Written (.object members) := by
  intro p rest stops
  have chars : (Json.object members).compactChars.map .char ++ rest =
      .char '\x7b' :: ((Json.memberChars members).map .char ++ .char '\x7d' :: rest) := by
    simp [Json.compactChars]
  obtain ⟨_, _, _, q, opening⟩ := Stream.scan_punctuation p
    ((Json.memberChars members).map .char ++ .char '\x7d' :: rest)
    (show Stream.punctuation? '\x7b' = some .beginObject from rfl) (by decide)
  obtain ⟨drafts, closing, q', listed, spelled⟩ := firstMember_written each q rest
  rw [chars, opening, build_object, listed]
  exact ⟨.object spelled, q', rfl⟩

/-- A value whose numbers are integers is read as it is written. -/
theorem written_of_integral {v : Json} (integral : v.Integral) : Written v := by
  induction integral with
  | null =>
    intro p rest stops
    have chars : Json.null.compactChars.map .char ++ rest =
        .char 'n' :: (Word.null.tail.map .char ++ rest) := rfl
    obtain ⟨_, _, _, q, built⟩ :=
      build_leaf (Stream.scan_word p rest (c := 'n') (by decide) rfl rfl) nofun nofun
    rw [chars]
    exact ⟨built ▸ .null, q, congrArg after built⟩
  | bool b =>
    intro p rest stops
    cases b with
    | true =>
      have chars : (Json.bool true).compactChars.map .char ++ rest =
          .char 't' :: (Word.true.tail.map .char ++ rest) := rfl
      obtain ⟨_, _, _, q, built⟩ :=
        build_leaf (Stream.scan_word p rest (c := 't') (by decide) rfl rfl) nofun nofun
      rw [chars]
      exact ⟨built ▸ .true, q, congrArg after built⟩
    | false =>
      have chars : (Json.bool false).compactChars.map .char ++ rest =
          .char 'f' :: (Word.false.tail.map .char ++ rest) := rfl
      obtain ⟨_, _, _, q, built⟩ :=
        build_leaf (Stream.scan_word p rest (c := 'f') (by decide) rfl rfl) nofun nofun
      rw [chars]
      exact ⟨built ▸ .false, q, congrArg after built⟩
  | integer n =>
    intro p rest stops
    obtain ⟨_, _, _, q, built⟩ := build_leaf (Stream.scan_integer p n stops) nofun nofun
    exact ⟨built ▸ .number, q, congrArg after built⟩
  | string s =>
    intro p rest stops
    obtain ⟨_, _, _, q, built⟩ := build_leaf (Stream.scan_quotedChars p s rest) nofun nofun
    exact ⟨built ▸ .string, q, congrArg after built⟩
  | array _ ih => exact written_array ih
  | object _ ih => exact written_object ih

/-- What is read from the bytes of the compact text of a value spells the value, when its numbers
are integers. -/
theorem spells_compact {v : Json} (integral : v.Integral) :
    (ofSymbols (Symbol.ofBytes v.compact.toUTF8.toList)).Spells v := by
  have symbols : Symbol.ofBytes v.compact.toUTF8.toList = v.compactChars.map .char := by
    rw [Symbol.ofBytes_toUTF8, Symbol.ofString, Json.compact, String.toList_ofList]
  obtain ⟨spells, _⟩ := written_of_integral integral .start [] Scan.stops_nil
  rw [List.append_nil] at spells
  rw [symbols]
  exact spells

end Draft

end SchemaDialogue
