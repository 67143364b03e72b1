import SchemaDialogue.Proofs.Extents
import SchemaDialogue.Proofs.RoundTrip

/-!
# What follows the first value of a text

A document is one value with nothing but blanks after it (`Json.parse`). A reader of a text reads
the value in front and does not ask what follows. So it reads every document, and it reads every
text that begins with one, whatever comes behind (`Read.json_ofText`).
-/

namespace SchemaDialogue

variable {text : List Symbol} {v : Json} {s : Stream}

/-! ## The value in front -/

/-- A value is read from the symbols in front of what it leaves, whatever is left in the place of
that. -/
theorem Draft.Reads.front {nesting : Nesting} {p : Place}
    (reads : Reads nesting (Stream.scan p text) v s) :
    ∃ front q rest, text = front ++ rest ∧ s = Stream.scan q rest ∧ Stream.Visible rest ∧
      ∀ tail, Scan.Fits rest tail →
        Reads nesting (Stream.scan p (front ++ tail)) v (Stream.scan q tail) := by
  obtain ⟨tokens, whole, stream, again⟩ := reads.inFront
  obtain ⟨q, rest, left, visible, front, split, same⟩ := Stream.scan_spans whole stream
  refine ⟨front, q, rest, split, left, visible, fun tail fits => ?_⟩
  rw [same tail fits]
  exact again _

namespace Json

/-- A value that is read is that of a document if nothing is left. -/
theorem parseSymbols_of_reads
    (reads : Draft.Reads Draft.textNesting (Stream.ofSymbols text) v s) :
    parseSymbols text = (checkFinished s).map fun _ => v := by
  obtain ⟨read, after⟩ := reads.value
  rw [parseSymbols, show (Draft.ofSymbols text).value _ = .ok v from read,
    show (Draft.ofSymbols text).after = s from after]
  rfl

theorem reads_of_parseSymbols (parsed : parseSymbols text = .ok v) :
    ∃ p, Draft.Reads Draft.textNesting (Stream.ofSymbols text) v (.finish p) := by
  obtain ⟨w, read, parsed⟩ := Read.exists_of_bind_eq_ok parsed
  obtain ⟨_, finished, ⟨⟩⟩ := Read.exists_of_bind_eq_ok parsed
  have reads := Draft.reads_of_value read
  cases after : (Draft.ofSymbols text).after with
  | finish p => exact ⟨p, after ▸ reads⟩
  | token t rest =>
    rw [after] at finished
    cases finished

/-- No object of a document has two members of one name, whatever its text repeats. -/
theorem distinct_of_parseSymbols (parsed : parseSymbols text = .ok v) : v.Distinct := by
  obtain ⟨_, reads⟩ := reads_of_parseSymbols parsed
  exact reads.distinct

/-- What is left of a text that is no document is reported. -/
theorem parseSymbols_of_left {q : Place} {rest : List Symbol}
    (reads : Draft.Reads Draft.textNesting (Stream.ofSymbols text) v (Stream.scan q rest))
    (visible : Stream.Visible rest) (left : rest ≠ []) :
    ∃ p, parseSymbols text = .error ⟨.trailingCharacters, p⟩ := by
  rw [parseSymbols_of_reads reads]
  cases scanned : Stream.scan q rest with
  | finish p => exact absurd (Stream.eq_nil_of_scan visible scanned) left
  | token t s => exact ⟨t.peeked, rfl⟩

end Json

namespace Read

theorem json_of_reads (reads : Draft.Reads Draft.textNesting (Stream.ofSymbols text) v s) :
    json .ofText (Draft.ofSymbols text) = .ok v :=
  congrArg Outcome.ofFault reads.value.1

theorem reads_of_json (read : json .ofText (Draft.ofSymbols text) = .ok v) :
    ∃ s, Draft.Reads Draft.textNesting (Stream.ofSymbols text) v s :=
  ⟨_, Draft.reads_of_value (eq_ok_of_mapError read)⟩

/-- **A reader reads the value in front of a text.** It reads the value of every document. A value
that it reads is that of a document in front of the text, and the text is a document only if nothing
is left behind that. And what is put behind a document does not change what is read, unless it goes
on with a number, although the text is no document any more. -/
theorem json_ofText (text : List Symbol) (v : Json) :
    (Json.parseSymbols text = .ok v → json .ofText (Draft.ofSymbols text) = .ok v) ∧
    (json .ofText (Draft.ofSymbols text) = .ok v →
      ∃ front rest, text = front ++ rest ∧ Stream.Visible rest ∧
        Json.parseSymbols front = .ok v ∧ (Json.parseSymbols text = .ok v ↔ rest = [])) ∧
    (Json.parseSymbols text = .ok v → ∀ rest, rest ≠ [] → Stream.Visible rest → Scan.Ends rest →
      json .ofText (Draft.ofSymbols (text ++ rest)) = .ok v ∧
        ∃ p, Json.parseSymbols (text ++ rest) = .error ⟨.trailingCharacters, p⟩) := by
  refine ⟨fun parsed => ?document, fun read => ?front, fun parsed rest left visible ends => ?behind⟩
  case document =>
    obtain ⟨p, reads⟩ := Json.reads_of_parseSymbols parsed
    exact json_of_reads reads
  case front =>
    obtain ⟨s, reads⟩ := reads_of_json read
    obtain ⟨front, q, rest, rfl, rfl, visible, again⟩ := reads.front
    have alone : Json.parseSymbols front = .ok v := by
      have nothing := again [] (.inr Scan.ends_nil)
      rw [List.append_nil, show Stream.scan q [] = .finish q by rw [Stream.scan]] at nothing
      exact Json.parseSymbols_of_reads nothing
    refine ⟨front, rest, rfl, visible, alone, fun parsed => ?_, ?_⟩
    · by_contra left
      obtain ⟨p, trailing⟩ := Json.parseSymbols_of_left reads visible left
      rw [trailing] at parsed
      cases parsed
    · rintro rfl
      rwa [List.append_nil]
  case behind =>
    obtain ⟨p, reads⟩ := Json.reads_of_parseSymbols parsed
    obtain ⟨front, q, blank, split, finish, unseen, again⟩ := reads.front
    obtain rfl := Stream.eq_nil_of_scan unseen finish.symm
    rw [List.append_nil] at split
    subst split
    have further := again rest (.inr ends)
    exact ⟨json_of_reads further, Json.parseSymbols_of_left further visible left⟩

/-- What the registry of nothing is written as, with a bracket behind it. -/
def bracketed : String := "\x7b\"types\":\x7b\x7d\x7d]"

theorem symbols_bracketed :
    Symbol.ofString bracketed =
      (Registry.toJson ⟨[], []⟩).compactChars.map .char ++ [.char ']'] := rfl

/-- The registry of nothing stands in front, and the bracket is left. -/
theorem spells_bracketed :
    (Draft.ofString bracketed).Spells (Registry.toJson ⟨[], []⟩) ∧
      ∃ q, (Draft.ofString bracketed).after = Stream.scan q [.char ']'] := by
  have integral : (Registry.toJson ⟨[], []⟩).Integral := .object fun _ mem => by
    cases List.mem_singleton.mp mem
    exact .object nofun
  rw [Draft.ofString, symbols_bracketed]
  exact Draft.written_of_integral integral .start [.char ']'] (Scan.stops_bracket [])

theorem parse_bracketed (v : Json) : Json.parse bracketed ≠ .ok v := by
  intro parsed
  obtain ⟨p, reads⟩ := Json.reads_of_parseSymbols parsed
  obtain ⟨-, q, after⟩ := spells_bracketed
  obtain ⟨_, _, _, _, bracket⟩ := Stream.scan_bracket q []
  have finish : (Draft.ofString bracketed).after = .finish p := reads.value.2
  rw [after, bracket] at finish
  cases finish

/-- The registry of nothing with a bracket behind it is read, as a value and as a registry. It is no
document. -/
theorem not_json_ofText :
    (¬∀ (text : String) (v : Json),
      json .ofText (Draft.ofString text) = .ok v ↔ Json.parse text = .ok v) ∧
    ¬∀ (text : String) (registry : Registry),
      Registry.read .ofText (Draft.ofString text) = .ok registry →
        ∃ v, Json.parse text = .ok v := by
  have allowed : Reading.ofText.nesting.Allows (Registry.toJson ⟨[], []⟩).depth := by
    rintro _ ⟨⟩
    decide
  refine ⟨fun same => ?_, fun documents => ?_⟩
  · obtain ⟨v, read⟩ := Draft.value_of_spells spells_bracketed.1 allowed
    exact parse_bracketed v ((same _ v).mp (congrArg Outcome.ofFault read))
  · obtain ⟨v, parsed⟩ := documents bracketed ⟨[], []⟩
      (Registry.recovers ⟨[], []⟩ .nil allowed _ spells_bracketed.1)
    exact parse_bracketed v parsed

end Read

end SchemaDialogue
