import SchemaDialogue.Proofs.Formats
import SchemaDialogue.Proofs.Words

/-!
# Terms

What is written for a type is a list of terms with bars between them. A term is a word with
arguments, a quoted text or a tuple, and a pair of brackets for each array around it (`Term`).
Nothing in it is left to choose: no union stands in a union, and no text is to be left out.

The text of a term determines the term, and where it ends (`Term.clear`), by induction over the
term. For types and lists of types this follows as for all formats with separators.
-/

namespace SchemaDialogue

/-- What is written between two bars, commas or brackets. Arguments and elements are types, which
are lists of terms. -/
inductive Term
  | word (head : Head) (args : List (List Term)) (depth : Nat)
  | quoted (s : String) (depth : Nat)
  | tuple (elements : List (List Term)) (depth : Nat)

namespace Term

/-- Induction over terms; in lists of types it holds of each term of each type. -/
theorem induction {P : Term → Prop}
    (word : ∀ head args depth, (∀ ts ∈ args, ∀ t ∈ ts, P t) → P (.word head args depth))
    (quoted : ∀ s depth, P (.quoted s depth))
    (tuple : ∀ elements depth, (∀ ts ∈ elements, ∀ t ∈ ts, P t) → P (.tuple elements depth))
    (t : Term) : P t := by
  apply Term.rec (motive_1 := P) (motive_2 := fun types => ∀ ts ∈ types, ∀ t ∈ ts, P t)
    (motive_3 := fun ts => ∀ t ∈ ts, P t) (fun _ _ _ ih => word _ _ _ ih) quoted
    (fun _ _ ih => tuple _ _ ih)
  · exact fun ts h => nomatch h
  · exact fun _ _ ihHead ihTail => List.forall_mem_cons.mpr ⟨ihHead, ihTail⟩
  · exact fun t h => nomatch h
  · exact fun _ _ ihHead ihTail => List.forall_mem_cons.mpr ⟨ihHead, ihTail⟩

/-! ## Text -/

mutual

/-- The text of a term. -/
def text : Term → List Char
  | word head [] depth => head.text.toList ++ brackets depth
  | word head (arg :: args) depth =>
    head.text.toList ++ '<' :: (", ".toList.intercalate (typeTexts (arg :: args)) ++
      '>' :: brackets depth)
  | quoted s depth => Json.quotedChars s ++ brackets depth
  | tuple elements depth =>
    '[' :: (", ".toList.intercalate (typeTexts elements) ++ ']' :: brackets depth)

/-- The texts of types. -/
def typeTexts : List (List Term) → List (List Char)
  | [] => []
  | ts :: rest => " | ".toList.intercalate (texts ts) :: typeTexts rest

/-- The texts of terms. -/
def texts : List Term → List (List Char)
  | [] => []
  | t :: rest => t.text :: texts rest

end

/-- Words are plain, and no type is without terms. -/
inductive Proper (numerals : Set Number) : Term → Prop
  | word {head : Head} {args : List (List Term)} {depth : Nat} (plain : head.Plain numerals)
      (nonempty : ∀ ts ∈ args, ts ≠ []) (proper : ∀ ts ∈ args, ∀ t ∈ ts, Proper numerals t) :
      Proper numerals (.word head args depth)
  | quoted {s : String} {depth : Nat} : Proper numerals (.quoted s depth)
  | tuple {elements : List (List Term)} {depth : Nat} (nonempty : ∀ ts ∈ elements, ts ≠ [])
      (proper : ∀ ts ∈ elements, ∀ t ∈ ts, Proper numerals t) :
      Proper numerals (.tuple elements depth)

/-- May a term go on with this character? -/
def isOpen (c : Char) : Bool := isWordPart c || c = '<' || c = '['

/-- Terms. -/
def format (numerals : Set Number) : Format Term Term where
  text := text
  meaning := id
  Valid := Proper numerals
  Follows := Avoids isOpen

/-- Types: terms with bars between them. -/
def typeFormat (numerals : Set Number) : Format (List Term) (List Term) :=
  (format numerals).separated " | "

/-- Lists of types: types with commas between them. -/
def listFormat (numerals : Set Number) : Format (List (List Term)) (List (List Term)) :=
  (typeFormat numerals).separated ", "

variable {numerals : Set Number} {s t : List Char}

theorem texts_eq_map (ts : List Term) : texts ts = ts.map text := by
  induction ts with
  | nil => rfl
  | cons t rest ih => rw [texts, ih, List.map_cons]

theorem typeTexts_eq_map (numerals : Set Number) (types : List (List Term)) :
    typeTexts types = types.map (typeFormat numerals).text := by
  induction types with
  | nil => rfl
  | cons ts rest ih =>
    rw [typeTexts, ih, texts_eq_map, List.map_cons]
    rfl

theorem text_word (numerals : Set Number) (head : Head) (args : List (List Term)) (depth : Nat) :
    (word head args depth).text =
      head.text.toList ++ ((typeFormat numerals).angled args ++ brackets depth) := by
  cases args with
  | nil => rfl
  | cons arg args =>
    rw [text, typeTexts_eq_map numerals, Format.angled, List.cons_append, List.append_assoc]
    rfl

theorem text_quoted (a : String) (depth : Nat) :
    (quoted a depth).text = Json.quotedChars a ++ brackets depth := rfl

theorem text_tuple (numerals : Set Number) (elements : List (List Term)) (depth : Nat) :
    (tuple elements depth).text =
      '[' :: ((listFormat numerals).text elements ++ ']' :: brackets depth) := by
  rw [text, typeTexts_eq_map numerals]
  rfl

/-! ## Reading -/

/-- The characters that the text of a term starts with. -/
def starts : Term → Char → Bool
  | word .., c => isWordPart c
  | quoted .., c => c = '"'
  | tuple .., c => c = '['

theorem exists_cons {u : Term} (proper : u.Proper numerals) :
    ∃ c rest, u.text = c :: rest ∧ u.starts c := by
  cases proper with
  | @word head args depth plain _ _ =>
    obtain ⟨c, rest, chars⟩ := List.exists_cons_of_ne_nil (Head.text_ne_nil plain)
    refine ⟨c, rest ++ ((typeFormat numerals).angled args ++ brackets depth), ?_, ?_⟩
    · rw [text_word numerals, chars, List.cons_append]
    · exact Head.forall_mem_text plain c (chars ▸ .head _)
  | quoted => exact ⟨'"', _, rfl, rfl⟩
  | tuple => exact ⟨'[', _, text_tuple numerals _ _, rfl⟩

theorem typeFollows_cons {c : Char} (closes : isOpen c = false) (blank : c ≠ ' ') (s : List Char) :
    (typeFormat numerals).Follows (c :: s) :=
  ⟨avoids_cons.mpr closes, fun h => blank (List.cons_prefix_cons.mp h).1.symm⟩

theorem typeFollows_comma (s : List Char) : (typeFormat numerals).Follows (", ".toList ++ s) :=
  typeFollows_cons rfl (by decide) (' ' :: s)

theorem listFollows_cons {c : Char} (closes : isOpen c = false) (blank : c ≠ ' ') (comma : c ≠ ',')
    (s : List Char) : (listFormat numerals).Follows (c :: s) :=
  ⟨typeFollows_cons closes blank s, fun h => comma (List.cons_prefix_cons.mp h).1.symm⟩

/-- Types of which each has proper terms. -/
def Types (numerals : Set Number) (types : List (List Term)) : Prop :=
  ∀ ts ∈ types, ts ≠ [] ∧ ∀ t ∈ ts, t.Proper numerals

/-- May a list of types end with this character? -/
def Closes (c : Char) : Prop := c ∈ ['>', ']']

theorem Closes.follows {c : Char} (closes : Closes c) (s : List Char) :
    (listFormat numerals).Follows (c :: s) := by
  rcases List.mem_pair.mp closes with rfl | rfl
  · exact listFollows_cons rfl (by decide) (by decide) s
  · exact listFollows_cons rfl (by decide) (by decide) s

theorem Closes.not_starts {c : Char} (closes : Closes c) (u : Term) : u.starts c = false := by
  rcases List.mem_pair.mp closes with rfl | rfl
  · cases u <;> rfl
  · cases u <;> rfl

/-- A list of types does not begin with what ends one. -/
theorem list_ne_close {types : List (List Term)} (proper : Types numerals types)
    (nonempty : types ≠ []) {c : Char} (closes : Closes c) :
    (listFormat numerals).text types ++ s ≠ c :: t := by
  obtain ⟨ts, rest, rfl⟩ := List.exists_cons_of_ne_nil nonempty
  obtain ⟨properTerms, _⟩ := List.forall_mem_cons.mp proper
  obtain ⟨u, us, rfl⟩ := List.exists_cons_of_ne_nil properTerms.1
  obtain ⟨d, chars, text, start⟩ := exists_cons (properTerms.2 u (.head _))
  obtain ⟨more, types⟩ :=
    Format.exists_text_cons (f := typeFormat numerals) ", " (u :: us) rest
  obtain ⟨more', terms⟩ := Format.exists_text_cons (f := format numerals) " | " u us
  intro same
  rw [listFormat, types, typeFormat, terms, show (format numerals).text u = _ from text] at same
  have first : d = c := (List.cons.inj same).1
  rw [first, closes.not_starts u] at start
  cases start

theorem eq_of_meaning {types types' : List (List Term)}
    (same : types.map (typeFormat numerals).meaning = types'.map (typeFormat numerals).meaning) :
    types = types' := by
  have meaning : ∀ types : List (List Term), types.map (typeFormat numerals).meaning = types := by
    intro types
    show types.map (List.map id) = types
    rw [List.map_id_fun, List.map_id]
  rwa [meaning, meaning] at same

/-- The end of a type can be told when that of each of its terms can. -/
theorem clear_type {ts : List Term} (nonempty : ts ≠ [])
    (clear : ∀ t ∈ ts, (format numerals).Clear t) : (typeFormat numerals).Clear ts :=
  Format.Clear.separated nonempty (fun _ => avoids_cons.mpr rfl) clear

/-- The end of a list of types can be told where it is closed. -/
theorem list_append {types types' : List (List Term)}
    (clear : ∀ ts ∈ types, ∀ t ∈ ts, (format numerals).Clear t) (proper : Types numerals types)
    (proper' : Types numerals types') {c : Char} (closes : Closes c)
    (same : (listFormat numerals).text types ++ c :: s =
      (listFormat numerals).text types' ++ c :: t) :
    types = types' ∧ s = t := by
  -- no types have no text, which no list of types begins like
  by_cases nonempty : types = []
  · by_cases nonempty' : types' = []
    · subst nonempty nonempty'
      exact ⟨rfl, (List.cons.inj same).2⟩
    · subst nonempty
      exact absurd same.symm (list_ne_close proper' nonempty' closes)
  · by_cases nonempty' : types' = []
    · subst nonempty'
      exact absurd same (list_ne_close proper nonempty closes)
    · have clearTypes : ∀ ts ∈ types, (typeFormat numerals).Clear ts :=
        fun ts hts => clear_type (proper ts hts).1 (clear ts hts)
      obtain ⟨meanings, after⟩ := Format.Clear.separated nonempty typeFollows_comma clearTypes
        ⟨nonempty', proper'⟩ (closes.follows s) (closes.follows t) same
      exact ⟨eq_of_meaning meanings, (List.cons.inj after).2⟩

/-- The end of arguments can be told where no angle bracket follows. -/
theorem arguments_append {args args' : List (List Term)}
    (clear : ∀ ts ∈ args, ∀ t ∈ ts, (format numerals).Clear t) (proper : Types numerals args)
    (proper' : Types numerals args') (hs : Avoids (· = '<') s) (ht : Avoids (· = '<') t)
    (same : (typeFormat numerals).angled args ++ s = (typeFormat numerals).angled args' ++ t) :
    args = args' ∧ s = t := by
  have clearTypes : ∀ ts ∈ args, (typeFormat numerals).Clear ts :=
    fun ts hts => clear_type (proper ts hts).1 (clear ts hts)
  obtain ⟨meanings, after⟩ := Format.angled_append clearTypes proper' typeFollows_comma
    (typeFollows_cons rfl (by decide)) hs ht same
  exact ⟨eq_of_meaning meanings, after⟩

/-- Texts that are the same begin with the same character. -/
theorem exists_start {u v : Term} (proper : u.Proper numerals) (proper' : v.Proper numerals)
    (same : u.text ++ s = v.text ++ t) : ∃ c, u.starts c ∧ v.starts c := by
  obtain ⟨c, rest, text, start⟩ := exists_cons proper
  obtain ⟨d, rest', text', start'⟩ := exists_cons proper'
  rw [text, text'] at same
  cases (List.cons.inj same).1
  exact ⟨c, start, start'⟩

theorem Proper.types {types : List (List Term)} (nonempty : ∀ ts ∈ types, ts ≠ [])
    (proper : ∀ ts ∈ types, ∀ t ∈ ts, Proper numerals t) : Types numerals types :=
  fun ts hts => ⟨nonempty ts hts, proper ts hts⟩

theorem avoids_of_isOpen (h : Avoids isOpen s) :
    Avoids isWordPart s ∧ Avoids (· = '<') s ∧ Avoids (· = '[') s := by
  have each : ∀ c, isOpen c = false →
      isWordPart c = false ∧ decide (c = '<') = false ∧ decide (c = '[') = false := by
    intro c closed
    rwa [isOpen, Bool.or_eq_false_iff, Bool.or_eq_false_iff, and_assoc] at closed
  exact ⟨h.mono fun c hc => (each c hc).1, h.mono fun c hc => (each c hc).2.1,
    h.mono fun c hc => (each c hc).2.2⟩

theorem clear_word (injective : Set.InjOn Number.text numerals) {head : Head}
    {args : List (List Term)} {depth : Nat} (plain : head.Plain numerals)
    (types : Types numerals args) (clear : ∀ ts ∈ args, ∀ t ∈ ts, (format numerals).Clear t) :
    (format numerals).Clear (word head args depth) := by
  intro v s t proper' hs ht same
  have proper : (word head args depth).Proper numerals :=
    .word plain (fun ts hts => (types ts hts).1) (fun ts hts => (types ts hts).2)
  obtain ⟨c, start, start'⟩ := exists_start proper proper' same
  cases proper' with
  | @word head' args' depth' plain' nonempty' properArgs' =>
    obtain ⟨wordS, angleS, squareS⟩ := avoids_of_isOpen hs
    obtain ⟨wordT, angleT, squareT⟩ := avoids_of_isOpen ht
    have same : (word head args depth).text ++ s = (word head' args' depth').text ++ t := same
    rw [text_word numerals, text_word numerals, List.append_assoc, List.append_assoc,
      List.append_assoc, List.append_assoc] at same
    -- word, arguments and brackets each end where what comes next cannot go on with them
    obtain ⟨heads, afterHead⟩ := append_eq_of_all (Head.forall_mem_text plain)
      (Head.forall_mem_text plain')
      (Format.avoids_angled rfl (avoids_brackets rfl wordS depth) args)
      (Format.avoids_angled rfl (avoids_brackets rfl wordT depth') args') same
    have sameHead : head = head' :=
      Head.eq_of_text injective plain plain' (String.toList_injective heads)
    obtain ⟨sameArgs, afterArgs⟩ := arguments_append clear types
      (Proper.types nonempty' properArgs') (avoids_brackets rfl angleS depth)
      (avoids_brackets rfl angleT depth') afterHead
    obtain ⟨sameDepth, after⟩ := brackets_append squareS squareT afterArgs
    subst sameHead sameArgs sameDepth
    exact ⟨rfl, after⟩
  | quoted =>
    cases of_decide_eq_true start'
    cases start
  | tuple =>
    cases of_decide_eq_true start'
    cases start

theorem clear_quoted (a : String) (depth : Nat) : (format numerals).Clear (quoted a depth) := by
  intro v s t proper' hs ht same
  obtain ⟨c, start, start'⟩ := exists_start .quoted proper' same
  cases of_decide_eq_true start
  cases v with
  | word => cases start'
  | tuple => cases start'
  | quoted b depth' =>
    have same : (quoted a depth).text ++ s = (quoted b depth').text ++ t := same
    rw [text_quoted, text_quoted, List.append_assoc, List.append_assoc] at same
    obtain ⟨sameText, afterText⟩ := quotedChars_append same
    obtain ⟨sameDepth, after⟩ :=
      brackets_append (avoids_of_isOpen hs).2.2 (avoids_of_isOpen ht).2.2 afterText
    subst sameText sameDepth
    exact ⟨rfl, after⟩

theorem clear_tuple {elements : List (List Term)} {depth : Nat} (types : Types numerals elements)
    (clear : ∀ ts ∈ elements, ∀ t ∈ ts, (format numerals).Clear t) :
    (format numerals).Clear (tuple elements depth) := by
  intro v s t proper' hs ht same
  have proper : (tuple elements depth).Proper numerals :=
    .tuple (fun ts hts => (types ts hts).1) (fun ts hts => (types ts hts).2)
  obtain ⟨c, start, start'⟩ := exists_start proper proper' same
  cases of_decide_eq_true start
  cases proper' with
  | word => cases start'
  | quoted => cases start'
  | @tuple elements' depth' nonempty' properElements' =>
    have same : (tuple elements depth).text ++ s = (tuple elements' depth').text ++ t := same
    rw [text_tuple numerals, text_tuple numerals, List.cons_append, List.cons_append,
      List.append_assoc, List.append_assoc] at same
    obtain ⟨sameElements, afterElements⟩ := list_append clear types
      (Proper.types nonempty' properElements') (.tail _ (.head _)) (List.cons.inj same).2
    obtain ⟨sameDepth, after⟩ :=
      brackets_append (avoids_of_isOpen hs).2.2 (avoids_of_isOpen ht).2.2 afterElements
    subst sameElements sameDepth
    exact ⟨rfl, after⟩

/-- **The text of a term determines the term, and where it ends.** -/
theorem clear (injective : Set.InjOn Number.text numerals) {u : Term}
    (proper : u.Proper numerals) : (format numerals).Clear u := by
  induction u using Term.induction with
  | word head args depth ih =>
    cases proper with
    | word plain nonempty proper =>
      exact clear_word injective plain (Proper.types nonempty proper)
        fun ts hts t ht => ih ts hts t ht (proper ts hts t ht)
  | quoted a depth => exact clear_quoted a depth
  | tuple elements depth ih =>
    cases proper with
    | tuple nonempty proper =>
      exact clear_tuple (Proper.types nonempty proper)
        fun ts hts t ht => ih ts hts t ht (proper ts hts t ht)

end Term

end SchemaDialogue
