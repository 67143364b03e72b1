import Mathlib.Data.List.TakeWhile
import SchemaDialogue.Dialogue.Translate

/-!
# The answer inside a response

The part of a response that resembles JSON is found at two bytes: the one at which the first opening
brace starts, and the one at which the last closing brace starts. The response is cut there, and a
cut inside a character would be fatal. Here the cut is described on bytes, it is shown to fall
between characters whatever surrounds the braces, and from it follows that the text around an
answer does not change how the answer is judged.
-/

namespace SchemaDialogue

/-! ## Cutting a text at bytes -/

namespace Text

/-- How many bytes a text takes. -/
def byteLength : List Char → Nat
  | [] => 0
  | c :: text => c.utf8Size + byteLength text

/-- The byte at which the first of a character starts. -/
def firstByte? (c : Char) : List Char → Option Nat
  | [] => none
  | d :: text => if d = c then some 0 else (firstByte? c text).map (d.utf8Size + ·)

/-- The byte at which the last of a character starts. -/
def lastByte? (c : Char) : List Char → Option Nat
  | [] => none
  | d :: text =>
    match lastByte? c text with
    | some n => some (d.utf8Size + n)
    | none => if d = c then some 0 else none

/-- The text before a byte and the text from it, if the byte is no further one of a character. -/
def splitAtByte? : Nat → List Char → Option (List Char × List Char)
  | 0, text => some ([], text)
  | _ + 1, [] => none
  | n + 1, d :: text =>
    if d.utf8Size ≤ n + 1 then
      (splitAtByte? (n + 1 - d.utf8Size) text).map fun (front, back) => (d :: front, back)
    else none

/-- The text from one byte up to another, if both are between characters. -/
def sliceBytes? (start stop : Nat) (text : List Char) : Option (List Char) := do
  let (_, back) ← splitAtByte? start text
  let (part, _) ← splitAtByte? (stop - start) back
  return part

attribute [local simp] firstByte? lastByte? splitAtByte?

variable {c : Char} {pre part post text : List Char}

@[simp] theorem byteLength_nil : byteLength [] = 0 := rfl

@[simp] theorem byteLength_cons (c : Char) (text : List Char) :
    byteLength (c :: text) = c.utf8Size + byteLength text := rfl

@[simp] theorem byteLength_append (front back : List Char) :
    byteLength (front ++ back) = byteLength front + byteLength back := by
  induction front with
  | nil => simp
  | cons c front ih => rw [List.cons_append, byteLength_cons, byteLength_cons, ih, Nat.add_assoc]

theorem firstByte?_eq_none (absent : c ∉ text) : firstByte? c text = none := by
  induction text with
  | nil => rfl
  | cons d text ih =>
    obtain ⟨ne, rest⟩ := List.ne_and_not_mem_of_not_mem_cons absent
    simp [ne.symm, ih rest]

theorem firstByte?_append_cons (absent : c ∉ pre) (text : List Char) :
    firstByte? c (pre ++ c :: text) = some (byteLength pre) := by
  induction pre with
  | nil => simp
  | cons d pre ih =>
    obtain ⟨ne, rest⟩ := List.ne_and_not_mem_of_not_mem_cons absent
    simp [ne.symm, ih rest]

theorem lastByte?_eq_none (absent : c ∉ text) : lastByte? c text = none := by
  induction text with
  | nil => rfl
  | cons d text ih =>
    obtain ⟨ne, rest⟩ := List.ne_and_not_mem_of_not_mem_cons absent
    simp [ne.symm, ih rest]

theorem lastByte?_append_cons (absent : c ∉ post) (text : List Char) :
    lastByte? c (text ++ c :: post) = some (byteLength text) := by
  induction text with
  | nil => simp [lastByte?_eq_none absent]
  | cons d text ih => simp [ih]

theorem lastByte?_append_of_notMem (absent : c ∉ post) (text : List Char) :
    lastByte? c (text ++ post) = lastByte? c text := by
  induction text with
  | nil => exact lastByte?_eq_none absent
  | cons d text ih => simp [ih]

theorem lastByte?_lt {n : Nat} (found : lastByte? c text = some n) : n < byteLength text := by
  induction text generalizing n with
  | nil => simp at found
  | cons d text ih =>
    have size := d.utf8Size_pos
    simp only [lastByte?] at found
    split at found
    case h_1 m later =>
      have := ih later
      simp only [Option.some.injEq] at found
      simp only [byteLength_cons]
      omega
    case h_2 =>
      split at found
      · simp only [Option.some.injEq] at found
        simp only [byteLength_cons]
        omega
      · simp at found

/-- The end of a text that goes on is between characters. -/
theorem splitAtByte?_append (front back : List Char) :
    splitAtByte? (byteLength front) (front ++ back) = some (front, back) := by
  induction front with
  | nil => simp
  | cons d front ih =>
    obtain ⟨n, size⟩ : ∃ n, d.utf8Size + byteLength front = n + 1 :=
      ⟨d.utf8Size + byteLength front - 1, by have := d.utf8Size_pos; omega⟩
    have left : n + 1 - d.utf8Size = byteLength front := by omega
    have fits : d.utf8Size ≤ n + 1 := by omega
    simp [size, fits, left, ih]

theorem sliceBytes?_append (pre part post : List Char) :
    sliceBytes? (byteLength pre) (byteLength pre + byteLength part) (pre ++ (part ++ post)) =
      some part := by
  have length : byteLength pre + byteLength part - byteLength pre = byteLength part := by omega
  simp [sliceBytes?, splitAtByte?_append, length]

end Text

/-! ## The braces of a text -/

/-- An opening brace stands somewhere before a closing one. -/
def Braced (text : List Char) : Prop :=
  ∃ before inside after, text = before ++ '{' :: (inside ++ '}' :: after)

/-- The text from the byte at which the first opening brace starts through the one at which the last
closing brace does, or nothing if the second byte is not after the first. There is no answer at all
when the text would be cut inside a character. -/
def bracedBytes? (text : List Char) : Option (Option (List Char)) :=
  match Text.firstByte? '{' text, Text.lastByte? '}' text with
  | some first, some last =>
    if first < last then (Text.sliceBytes? first (last + 1) text).map some else some none
  | _, _ => some none

section

variable {pre rest inside post text : List Char}

/-- Where the outermost braces of a text are. -/
theorem braces_cases (text : List Char) :
    '{' ∉ text ∨
      (∃ pre rest, text = pre ++ '{' :: rest ∧ '{' ∉ pre ∧ '}' ∉ rest) ∨
      ∃ pre inside post, text = pre ++ '{' :: (inside ++ '}' :: post) ∧ '{' ∉ pre ∧ '}' ∉ post := by
  by_cases opened : '{' ∈ text
  case neg => exact .inl opened
  obtain ⟨pre, rest, rfl, first⟩ := List.eq_append_cons_of_mem opened
  by_cases closed : '}' ∈ rest
  case neg => exact .inr (.inl ⟨pre, rest, rfl, first, closed⟩)
  obtain ⟨post, inside, turned, last⟩ := List.eq_append_cons_of_mem (List.mem_reverse.mpr closed)
  have split : rest = inside.reverse ++ '}' :: post.reverse := by
    simpa using congrArg List.reverse turned
  exact .inr (.inr ⟨pre, inside.reverse, post.reverse, by rw [split], first, by simpa using last⟩)

theorem dropWhile_append_cons {c : Char} (absent : c ∉ pre) (rest : List Char) :
    (pre ++ c :: rest).dropWhile (· ≠ c) = c :: rest := by
  have skipped : ∀ d ∈ pre, (decide (d ≠ c)) = true := by
    intro d there
    exact decide_eq_true fun same => absent (same ▸ there)
  rw [List.dropWhile_append_of_pos skipped]
  simp

theorem dropWhile_eq_nil {c : Char} (absent : c ∉ text) : text.dropWhile (· ≠ c) = [] := by
  rw [List.dropWhile_eq_nil_iff]
  intro d there
  exact decide_eq_true fun same => absent (same ▸ there)

theorem bracedPart?_of_notMem (absent : '{' ∉ text) : bracedPart? text = none := by
  simp only [bracedPart?, dropWhile_eq_nil absent, List.reverse_nil, List.dropWhile_nil]

theorem bracedPart?_of_open (first : '{' ∉ pre) (unclosed : '}' ∉ rest) :
    bracedPart? (pre ++ '{' :: rest) = none := by
  have absent : '}' ∉ ('{' :: rest).reverse := by simpa using unclosed
  simp only [bracedPart?, dropWhile_append_cons first, dropWhile_eq_nil absent, List.reverse_nil]

theorem bracedPart?_surrounded (first : '{' ∉ pre) (last : '}' ∉ post) (inside : List Char) :
    bracedPart? (pre ++ '{' :: (inside ++ '}' :: post)) = some ('{' :: (inside ++ ['}'])) := by
  have absent : '}' ∉ post.reverse := by simpa using last
  have turned : ('{' :: (inside ++ '}' :: post)).reverse =
      post.reverse ++ '}' :: ('{' :: inside).reverse := by simp
  simp only [bracedPart?, dropWhile_append_cons first, turned, dropWhile_append_cons absent]
  simp

/-- An opening brace that is followed by a closing one is not in front of the first one. -/
theorem not_braced_of_open (first : '{' ∉ pre) (unclosed : '}' ∉ rest) :
    ¬Braced (pre ++ '{' :: rest) := by
  rintro ⟨before, inside, after, split⟩
  rcases List.append_eq_append_iff.mp split with ⟨mid, rfl, same⟩ | ⟨mid, rfl, same⟩
  · have tail : rest = (mid ++ '{' :: (inside ++ '}' :: after)).tail := congrArg List.tail same
    cases mid <;> exact unclosed (by simp [tail])
  · cases mid with
    | nil =>
      have tail : inside ++ '}' :: after = rest := congrArg List.tail same
      exact unclosed (by simp [← tail])
    | cons c mid =>
      have brace : '{' = c := (List.cons.inj same).1
      exact first (by simp [← brace])

/-- There is a part that resembles JSON exactly if an opening brace stands before a closing one. -/
theorem isSome_bracedPart?_iff : (bracedPart? text).isSome ↔ Braced text := by
  rcases braces_cases text with absent | ⟨pre, rest, rfl, first, unclosed⟩ |
    ⟨pre, inside, post, rfl, first, last⟩
  · have bare : ¬Braced text := by
      rintro ⟨before, inside, after, rfl⟩
      simp at absent
    simp [bracedPart?_of_notMem absent, bare]
  · simp [bracedPart?_of_open first unclosed, not_braced_of_open first unclosed]
  · simp only [bracedPart?_surrounded first last, Option.isSome_some, true_iff]
    exact ⟨pre, inside, post, rfl⟩

instance (text : List Char) : Decidable (Braced text) := decidable_of_iff _ isSome_bracedPart?_iff

/-- The cut at the bytes of the outermost braces is never inside a character, and what it gives is
the part between them. -/
theorem bracedBytes?_eq (text : List Char) : bracedBytes? text = some (bracedPart? text) := by
  rcases braces_cases text with absent | ⟨pre, rest, rfl, first, unclosed⟩ |
    ⟨pre, inside, post, rfl, first, last⟩
  · rw [bracedPart?_of_notMem absent, bracedBytes?, Text.firstByte?_eq_none absent]
  · -- Every closing brace is in front of the first opening one.
    rw [bracedPart?_of_open first unclosed, bracedBytes?, Text.firstByte?_append_cons first]
    have unclosed' : '}' ∉ '{' :: rest := by simpa using unclosed
    rw [Text.lastByte?_append_of_notMem unclosed']
    cases found : Text.lastByte? '}' pre with
    | none => rfl
    | some n =>
      have before := Text.lastByte?_lt found
      simp [show ¬Text.byteLength pre < n by omega]
  · have close : pre ++ '{' :: (inside ++ '}' :: post) = (pre ++ '{' :: inside) ++ '}' :: post := by
      simp
    have cut : pre ++ '{' :: (inside ++ '}' :: post) =
        pre ++ (('{' :: (inside ++ ['}'])) ++ post) := by simp
    have start : Text.firstByte? '{' (pre ++ '{' :: (inside ++ '}' :: post)) =
        some (Text.byteLength pre) := Text.firstByte?_append_cons first _
    have stop : Text.lastByte? '}' (pre ++ '{' :: (inside ++ '}' :: post)) =
        some (Text.byteLength (pre ++ '{' :: inside)) := by
      rw [close, Text.lastByte?_append_cons last]
    have brace : Char.utf8Size '{' = 1 ∧ Char.utf8Size '}' = 1 := by decide
    have order : Text.byteLength pre < Text.byteLength (pre ++ '{' :: inside) := by
      simp only [Text.byteLength_append, Text.byteLength_cons, brace]
      omega
    have through : Text.byteLength (pre ++ '{' :: inside) + 1 =
        Text.byteLength pre + Text.byteLength ('{' :: (inside ++ ['}'])) := by
      simp only [Text.byteLength_append, Text.byteLength_cons, Text.byteLength_nil, brace]
      omega
    rw [bracedPart?_surrounded first last, bracedBytes?, start, stop]
    simp only [if_pos order]
    rw [through, cut, Text.sliceBytes?_append]
    rfl

end

/-! ## What surrounds an answer -/

namespace Translator

variable {α : Type}

/-- A response without an opening brace in front of a closing one resembles no JSON. -/
theorem extractJson_of_not_braced {response : String} (bare : ¬Braced response.toList) :
    extractJson response = none := by
  have none : bracedPart? response.toList = none := by
    simpa using mt isSome_bracedPart?_iff.mp bare
  rw [extractJson, none, Option.map_none]

/-- What surrounds a text that starts with an opening brace and ends with a closing one. -/
theorem extractJson_surrounded {pre text post : String} (first : '{' ∉ pre.toList)
    (opens : text.toList.head? = some '{') (closes : text.toList.getLast? = some '}')
    (last : '}' ∉ post.toList) : extractJson (pre ++ text ++ post) = some text := by
  obtain ⟨rest, start⟩ : ∃ rest, text.toList = '{' :: rest := List.head?_eq_some_iff.mp opens
  obtain ⟨front, stop⟩ : ∃ front, text.toList = front ++ ['}'] :=
    List.getLast?_eq_some_iff.mp closes
  obtain ⟨inside, whole⟩ : ∃ inside, text.toList = '{' :: (inside ++ ['}']) := by
    cases front with
    | nil => simp [start] at stop
    | cons c inside =>
      have same : '{' = c := by simpa [start] using congrArg List.head? stop
      exact ⟨inside, by rw [stop, same, List.cons_append]⟩
  have split : (pre ++ text ++ post).toList =
      pre.toList ++ '{' :: (inside ++ '}' :: post.toList) := by
    simp [whole]
  rw [extractJson, split, bracedPart?_surrounded first last, ← whole]
  simp

/-- Without stripping, an answer is judged by validating the part that resembles JSON. -/
theorem judge_of_extractJson {t : Translator α} (plain : t.options.stripNulls = false)
    {response text : String} (found : extractJson response = some text) :
    t.judge response = (t.schema.validate t.read text).mapError .invalid := by
  simp only [judge, found, plain, Schema.validate]
  cases Schema.parse text <;> rfl

/-- **The text around an answer does not change how the answer is judged.** For every translator,
whatever its schema and the type that its answers are read as: the part of a response that resembles
JSON is the one cut at the bytes of its outermost braces, and the cut is never inside a character; a
text from an opening to a closing brace, after a text without an opening brace and in front of one
without a closing brace, is judged as that text alone is validated, where nulls are not stripped;
and a response in which no opening brace stands before a closing one is reported as a whole. -/
theorem judge_surrounded (t : Translator α) :
    (∀ response : String,
      bracedBytes? response.toList = some ((extractJson response).map String.toList)) ∧
    (t.options.stripNulls = false → ∀ pre text post : String, '{' ∉ pre.toList →
      text.toList.head? = some '{' → text.toList.getLast? = some '}' → '}' ∉ post.toList →
        t.judge (pre ++ text ++ post) = (t.schema.validate t.read text).mapError .invalid) ∧
    ∀ response : String, ¬Braced response.toList →
      t.judge response = .error (.extraction response) := by
  refine ⟨fun response => ?bytes, fun plain pre text post first opens closes last => ?around,
    fun response bare => ?bare⟩
  case bytes =>
    rw [bracedBytes?_eq, extractJson, Option.map_map]
    cases bracedPart? response.toList <;> simp
  case around => exact judge_of_extractJson plain (extractJson_surrounded first opens closes last)
  case bare => rw [judge, extractJson_of_not_braced bare]

/-- A translator for a record with one field. -/
def greeter : Translator Json where
  schema :=
    let greeting : RecordDef := { name := "Greeting", fields := [{ name := "é", type := .string }] }
    { source := { types := [("Greeting", .record greeting)] }, root := "Greeting" }
  read := Read.json

/-- Chatter with accents and the opposite brace, and braces that face away from each other. -/
theorem judge_surrounded_accented :
    greeter.judge ("Voilà \x7d : " ++ "\x7b\"é\": \"ça\"\x7d" ++ " — \x7b fin") =
        (greeter.schema.validate greeter.read "\x7b\"é\": \"ça\"\x7d").mapError .invalid ∧
      greeter.judge "\x7d à \x7b" = .error (.extraction "\x7d à \x7b") :=
  ⟨(judge_surrounded greeter).2.1 rfl _ _ _ (by decide) (by decide) (by decide) (by decide),
    (judge_surrounded greeter).2.2 _ (by decide)⟩

end Translator

end SchemaDialogue
