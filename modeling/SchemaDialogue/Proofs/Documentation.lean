import SchemaDialogue.Proofs.DeclarationText
import SchemaDialogue.Proofs.UnionText

/-!
# Documentation in the text of declarations

Documentation is written in lines of its own, which begin with two slashes behind the indentation,
and nothing else is. So the lines that begin so can be taken out of the text, which leaves the text
of the same declarations without documentation (`Declaration.dropComments_renderAll`).

* **lines** — a text of whole lines is cut at its newlines; `Text.Sheds` says which text is left
  of such a text without the comments, and holds of a row of texts when it holds of each.
* **what is no comment** — nodes are written in one line when the names in them have none
  (`Node.oneLine_render`), and no line that is written for a declaration or for a member begins
  like a comment.
* **what is one** — whatever stands in documentation, its lines are trimmed and marked.
-/

namespace SchemaDialogue

/-! ## Lines -/

namespace Text

/-- Is this line a comment, behind its indentation? -/
def isComment (line : List Char) : Bool := ['/', '/'].isPrefixOf (line.dropWhile isBlank)

/-- Lines, each ended by a newline. -/
def unlines (lines : List (List Char)) : List Char := lines.flatMap (· ++ ['\n'])

/-- The text without those of its lines that are comments; what stands behind the last newline is
not a line, and stays. -/
def dropComments (text : List Char) : List Char :=
  unlines ((splitLines text).dropLast.filter (!isComment ·)) ++ (splitLines text).getLastD []

variable {line text text' bare bare' : List Char}

theorem splitLines_append (inLine : '\n' ∉ line) (rest : List Char) :
    splitLines (line ++ '\n' :: rest) = line :: splitLines rest := by
  induction line with
  | nil => exact if_pos rfl
  | cons c line ih =>
    obtain ⟨other, inLine⟩ := not_or.mp (mt List.mem_cons.mpr inLine)
    rw [List.cons_append, splitLines, if_neg (Ne.symm other), ih inLine]

theorem splitLines_unlines {lines : List (List Char)} (inLine : ∀ line ∈ lines, '\n' ∉ line) :
    splitLines (unlines lines) = lines ++ [[]] := by
  induction lines with
  | nil => rfl
  | cons line rest ih =>
    obtain ⟨first, others⟩ := List.forall_mem_cons.mp inLine
    rw [unlines, List.flatMap_cons, List.append_assoc, ← unlines, List.cons_append, List.nil_append,
      splitLines_append first, ih others, List.cons_append]

theorem newline_not_mem_splitLines (text : List Char) : ∀ line ∈ splitLines text, '\n' ∉ line := by
  induction text with
  | nil => exact List.forall_mem_singleton.mpr List.not_mem_nil
  | cons c rest ih =>
    rw [splitLines]
    split
    · exact List.forall_mem_cons.mpr ⟨List.not_mem_nil, ih⟩
    · rename_i other
      have goesOn : ∀ line, '\n' ∉ line → '\n' ∉ c :: line := fun line inLine h =>
        (List.mem_cons.mp h).elim (Ne.symm other) inLine
      split
      · exact List.forall_mem_singleton.mpr (goesOn [] List.not_mem_nil)
      · rename_i line lines pieces
        rw [pieces] at ih
        obtain ⟨first, others⟩ := List.forall_mem_cons.mp ih
        exact List.forall_mem_cons.mpr ⟨goesOn line first, others⟩

/-- The text consists of lines, and is the second text when the comments among them are left
out. -/
def Sheds (text bare : List Char) : Prop :=
  ∃ lines, (∀ line ∈ lines, '\n' ∉ line) ∧ unlines lines = text ∧
    unlines (lines.filter (!isComment ·)) = bare

namespace Sheds

theorem dropComments (sheds : Sheds text bare) : dropComments text = bare := by
  obtain ⟨lines, inLine, rfl, rfl⟩ := sheds
  rw [Text.dropComments, splitLines_unlines inLine, List.dropLast_concat, List.getLastD_concat,
    List.append_nil]

theorem nil : Sheds [] [] := ⟨[], List.forall_mem_nil _, rfl, rfl⟩

/-- A comment is left out. -/
theorem comment (inLine : '\n' ∉ line) (isComment : isComment line = true) :
    Sheds (line ++ ['\n']) [] := by
  refine ⟨[line], List.forall_mem_singleton.mpr inLine, List.append_nil _, ?_⟩
  rw [List.filter_cons_of_neg (by rw [isComment]; exact Bool.false_ne_true)]
  rfl

/-- Any other line stays. -/
theorem kept (inLine : '\n' ∉ line) (other : isComment line = false) :
    Sheds (line ++ ['\n']) (line ++ ['\n']) := by
  refine ⟨[line], List.forall_mem_singleton.mpr inLine, List.append_nil _, ?_⟩
  rw [List.filter_cons_of_pos (by rw [other]; rfl)]
  exact List.append_nil _

theorem append (first : Sheds text bare) (second : Sheds text' bare') :
    Sheds (text ++ text') (bare ++ bare') := by
  obtain ⟨lines, inLine, rfl, rfl⟩ := first
  obtain ⟨lines', inLine', rfl, rfl⟩ := second
  refine ⟨lines ++ lines', List.forall_mem_append.mpr ⟨inLine, inLine'⟩, List.flatMap_append, ?_⟩
  rw [List.filter_append]
  exact List.flatMap_append

theorem flatMap {α : Type} {f g : α → List Char} {l : List α}
    (each : ∀ a ∈ l, Sheds (f a) (g a)) : Sheds (l.flatMap f) (l.flatMap g) := by
  induction l with
  | nil => exact nil
  | cons a rest ih =>
    obtain ⟨first, others⟩ := List.forall_mem_cons.mp each
    rw [List.flatMap_cons, List.flatMap_cons]
    exact first.append (ih others)

/-- Between texts, empty lines stay. -/
theorem intercalate {α : Type} {f g : α → List Char} {l : List α}
    (each : ∀ a ∈ l, Sheds (f a) (g a)) :
    Sheds (['\n'].intercalate (l.map f)) (['\n'].intercalate (l.map g)) := by
  induction l with
  | nil => exact nil
  | cons a rest ih =>
    obtain ⟨first, others⟩ := List.forall_mem_cons.mp each
    cases rest with
    | nil => simpa using first
    | cons b rest =>
      simp only [List.map_cons, List.intercalate_cons_cons] at ih ⊢
      exact (first.append (kept List.not_mem_nil rfl)).append (ih others)

end Sheds

end Text

/-! ## Texts in one line -/

/-- There is no newline in the text. -/
def OneLine (s : String) : Prop := '\n' ∉ s.toList

instance (s : String) : Decidable (OneLine s) := inferInstanceAs (Decidable ('\n' ∉ s.toList))

variable {s t : String}

@[simp]
theorem oneLine_append : OneLine (s ++ t) ↔ OneLine s ∧ OneLine t := by
  rw [OneLine, String.toList_append, List.mem_append, not_or, OneLine, OneLine]

theorem OneLine.intercalate {parts : List String} (between : OneLine s)
    (each : ∀ part ∈ parts, OneLine part) : OneLine (String.intercalate s parts) := by
  rw [OneLine, String.toList_intercalate]
  induction parts with
  | nil => exact List.not_mem_nil
  | cons part rest ih =>
    obtain ⟨first, others⟩ := List.forall_mem_cons.mp each
    cases rest with
    | nil => simpa using show '\n' ∉ part.toList from first
    | cons next rest =>
      simp only [List.map_cons, List.intercalate_cons_cons, List.mem_append, not_or] at ih ⊢
      exact ⟨⟨first, between⟩, ih others⟩

/-- A newline is written as two other characters. -/
theorem oneLine_quote (s : String) : OneLine (Json.quote s) := by
  have digit : ∀ n < 16, '\n' ≠ Json.hexDigit n := by decide
  have escaped : ∀ c, '\n' ∉ Json.escape c := by
    intro c
    rw [Json.escape.eq_def]
    split
    case h_8 newline _ _ =>
      split
      · rename_i control
        have small : c.toNat < 32 := control
        simp [digit (c.toNat / 16) (by omega), digit (c.toNat % 16) (by omega)]
      · simpa using Ne.symm newline
    all_goals decide
  rw [OneLine, Json.quote, String.toList_ofList, Json.quotedChars]
  simp [escaped]

theorem Number.oneLine_text (n : Number) : OneLine n.text :=
  fun newline => absurd (n.forall_mem_text '\n' newline) (by decide)

namespace Node

variable {n : Node}

/-- The names that the node refers to have no newline. -/
def InLine (n : Node) : Prop := ∀ name args, Part (reference name args) n → OneLine name

theorem exists_mem_of_mem_flatAll {leaf : Node} {ns : List Node} (h : leaf ∈ flatAll ns) :
    ∃ n ∈ ns, leaf ∈ n.flat := by
  induction ns with
  | nil => cases h
  | cons n rest ih =>
    rcases List.mem_append.mp h with h | h
    · exact ⟨n, .head _, h⟩
    · obtain ⟨n, hn, found⟩ := ih h
      exact ⟨n, .tail _ hn, found⟩

theorem oneLine_unionText {parts : List String} (each : ∀ part ∈ parts, OneLine part)
    (nullable : Bool) : OneLine (unionText parts nullable) := by
  rw [unionText_eq]
  split
  · decide
  · refine .intercalate (by decide) fun part h => ?_
    rcases List.mem_append.mp h with h | h
    · exact each part (List.mem_eraseDups.mp h)
    · cases nullable with
      | false => cases h
      | true => rw [List.mem_singleton.mp h]; decide

/-- A node is written in one line when the names in it are; so is each leaf of a union. -/
theorem oneLine_render (inLine : n.InLine) : OneLine n.render := by
  have single : ∀ {n : Node}, n.flat = [n] → OneLine n.render →
      OneLine n.render ∧ ∀ leaf ∈ n.flat, OneLine leaf.render := fun only line =>
    ⟨line, only ▸ List.forall_mem_singleton.mpr line⟩
  have list : ∀ {ns : List Node}, (∀ n ∈ ns, OneLine n.render) →
      OneLine (String.intercalate ", " (renderAll ns)) := fun each =>
    .intercalate (by decide) (renderAll_eq_map _ ▸ List.forall_mem_map.mpr each)
  -- a union is written by its leaves, which are no members of it when unions are nested
  have both : OneLine n.render ∧ ∀ leaf ∈ n.flat, OneLine leaf.render := by
    induction n using Node.induction with
    | primitive p => exact single rfl (by cases p <;> decide)
    | literal l =>
      refine single rfl ?_
      cases l with
      | string s => exact oneLine_quote s
      | number x => exact x.oneLine_text
      | boolean b => cases b <;> decide
    | reference name args ih =>
      refine single rfl ?_
      have oneName : OneLine name := inLine name args .refl
      have each : ∀ a ∈ args, OneLine a.render := fun a ha =>
        (ih a ha fun name' args' part => inLine name' args' (.arg ha part)).1
      cases args with
      | nil => exact oneName
      | cons a rest =>
        rw [render, oneLine_append, oneLine_append, oneLine_append]
        exact ⟨⟨⟨oneName, by decide⟩, list each⟩, by decide⟩
    | array element ih =>
      have element := (ih fun name args part => inLine name args (.array part)).1
      refine single rfl ?_
      rw [render_array_eq]
      split
      · exact oneLine_append.mpr ⟨oneLine_append.mpr ⟨by decide, element⟩, by decide⟩
      · exact oneLine_append.mpr ⟨element, by decide⟩
    | tuple elements ih =>
      refine single rfl ?_
      rw [render, oneLine_append, oneLine_append]
      exact ⟨⟨by decide, list fun e he =>
        (ih e he fun name args part => inLine name args (.tuple he part)).1⟩, by decide⟩
    | union members ih =>
      have leaves : ∀ leaf ∈ flatAll members, OneLine leaf.render := by
        intro leaf mem
        obtain ⟨m, hm, mem⟩ := exists_mem_of_mem_flatAll mem
        exact (ih m hm fun name args part => inLine name args (.union hm part)).2 leaf mem
      refine ⟨?_, leaves⟩
      rw [render_union_eq_unionText]
      exact oneLine_unionText (List.forall_mem_map.mpr fun leaf mem =>
        leaves leaf (List.mem_of_mem_filter mem)) _
  exact both.1

end Node

/-! ## What is a comment -/

namespace Text

theorem mem_of_mem_trim {text : List Char} {c : Char} (h : c ∈ trim text) : c ∈ text :=
  List.dropWhile_subset _ (List.mem_reverse.mp (List.dropWhile_subset _ (List.mem_reverse.mp h)))

/-- Indentation does not matter. -/
theorem isComment_append {blanks : List Char} (blank : ∀ c ∈ blanks, isBlank c)
    (text : List Char) : isComment (blanks ++ text) = isComment text := by
  rw [isComment, isComment, List.dropWhile_append_of_pos blank]

/-- What begins with another character is no comment. -/
theorem isComment_cons {c : Char} (visible : isBlank c = false) (other : c ≠ '/')
    (rest : List Char) : isComment (c :: rest) = false := by
  rw [isComment, List.dropWhile_cons_of_neg (by simp [visible])]
  simp [List.isPrefixOf, Ne.symm other]

end Text

namespace Declaration

theorem isNameStart_bounds {c : Char} (h : isNameStart c) :
    36 ≤ c.toNat ∧ c.toNat ≤ 122 ∧ c.toNat ≠ 47 := by
  have start : ((decide (c.val ≥ 'A'.val ∧ c.val ≤ 'Z'.val) ||
      (decide (c.val ≥ 'a'.val) && decide (c.val ≤ 'z'.val))) || c = '_' || c = '$') = true := h
  simp only [Bool.or_eq_true, Bool.and_eq_true, decide_eq_true_eq] at start
  rcases start with ((⟨first, last⟩ | ⟨first, last⟩) | rfl) | rfl
  · have first : 65 ≤ c.toNat := first
    have last : c.toNat ≤ 90 := last
    omega
  · have first : 97 ≤ c.toNat := first
    have last : c.toNat ≤ 122 := last
    omega
  · decide
  · decide

/-- A property name begins with neither a blank nor a slash, quoted or not. -/
theorem isComment_propertyName (name : String) (rest : List Char) :
    Text.isComment ((propertyName name).toList ++ rest) = false := by
  rw [propertyName]
  split
  · rename_i bare
    obtain ⟨c, more, chars, start⟩ := exists_isNameStart_of_isBareName bare
    obtain ⟨low, high, noSlash⟩ := isNameStart_bounds start
    have visible : Text.isBlank c = false := by
      rw [Text.isBlank, Text.isBlankCode]
      simp only [Bool.or_eq_false_iff, Bool.and_eq_false_iff, decide_eq_false_iff_not]
      omega
    rw [chars]
    exact Text.isComment_cons visible (fun same => noSlash (congrArg Char.toNat same)) _
  · rw [Json.quote, String.toList_ofList]
    exact Text.isComment_cons rfl (by decide) _

theorem oneLine_propertyName (name : String) : OneLine (propertyName name) := by
  rw [propertyName]
  split
  · rename_i bare
    exact fun newline => absurd (isNamePart_of_isBareName bare '\n' newline) (by decide)
  · exact oneLine_quote name

/-- A line of documentation is a comment. -/
theorem sheds_commentLine {indentation : String} (spaces : ∀ c ∈ indentation.toList, c = ' ')
    {line : List Char} (inLine : '\n' ∉ line) :
    Text.Sheds (commentLine indentation line).toList [] := by
  have comment : ∀ text : List Char, '\n' ∉ text →
      Text.Sheds (indentation.toList ++ '/' :: '/' :: text ++ ['\n']) [] := by
    intro text inLine
    refine .comment ?_ ?_
    · simp only [List.mem_append, List.mem_cons, not_or]
      exact ⟨fun h => absurd (spaces _ h) (by decide), by decide, by decide, inLine⟩
    · rw [Text.isComment_append fun c hc => spaces c hc ▸ rfl]
      rfl
  rw [commentLine]
  split
  · simpa using comment [] List.not_mem_nil
  · -- trimming takes off blanks at the ends, carriage returns among them, and adds nothing
    have trimmed : '\n' ∉ ' ' :: Text.trim line := fun h => (List.mem_cons.mp h).elim (by decide)
      fun h => inLine (Text.mem_of_mem_trim h)
    simpa using comment _ trimmed

/-- Nothing is left of documentation. -/
theorem sheds_comment {indentation : String} (spaces : ∀ c ∈ indentation.toList, c = ' ')
    (doc : String) : Text.Sheds (comment doc indentation).toList [] := by
  rw [comment]
  split
  · exact .nil
  · have nothing : (Text.splitLines (Text.trim doc.toList)).flatMap (fun _ => ([] : List Char)) =
        [] := List.flatMap_eq_nil_iff.mpr fun _ _ => rfl
    rw [String.toList_join, List.flatMap_map, ← nothing]
    exact .flatMap fun line mem =>
      sheds_commentLine spaces (Text.newline_not_mem_splitLines _ line mem)

end Declaration

/-! ## Members -/

namespace Member

/-- The member with its documentation changed. -/
def mapDocs (f : String → String) : Member → Member
  | property p => property { p with doc := f p.doc }
  | index key value => index key value

/-- A member is a line, behind its documentation. -/
theorem sheds_member (m : Member) (inLine : ∀ n ∈ m.nodes, n.InLine) :
    Text.Sheds ((Declaration.member m).toList ++ ['\n'])
      ((Declaration.member (m.mapDocs fun _ => "")).toList ++ ['\n']) := by
  have spaces : ∀ c ∈ Declaration.indent.toList, c = ' ' := by simp [Declaration.indent]
  have line : ∀ s : String, OneLine s → Text.isComment s.toList = false →
      Text.Sheds ((Declaration.indent ++ s).toList ++ ['\n'])
        ((Declaration.indent ++ s).toList ++ ['\n']) := fun s oneLine other =>
    .kept (oneLine_append.mpr ⟨by decide, oneLine⟩) (by
      rw [String.toList_append, Text.isComment_append fun c hc => spaces c hc ▸ rfl, other])
  cases m with
  | property p =>
    let text := Declaration.propertyName p.name ++ ((if p.optional then "?" else "") ++
      (": " ++ (p.type.render ++ ";")))
    have documented : ∀ doc, (Declaration.member (property { p with doc := doc })).toList =
        (Declaration.comment doc Declaration.indent).toList ++
          (Declaration.indent ++ text).toList := fun doc => by
      simp only [Declaration.member, text, String.toList_append, List.append_assoc]
    have marker : OneLine (if p.optional then "?" else "") := by split <;> decide
    have oneLine : OneLine text := by
      simp only [text, oneLine_append]
      exact ⟨Declaration.oneLine_propertyName p.name, marker, by decide,
        Node.oneLine_render (inLine p.type (.head _)), by decide⟩
    have other : Text.isComment text.toList = false := by
      rw [String.toList_append]
      exact Declaration.isComment_propertyName _ _
    have sheds := (Declaration.sheds_comment spaces p.doc).append (line text oneLine other)
    show Text.Sheds ((Declaration.member (property { p with doc := p.doc })).toList ++ _)
      ((Declaration.member (property { p with doc := "" })).toList ++ _)
    have blank : Text.trim "".toList = [] := rfl
    rw [documented, documented, Declaration.comment_of_blank blank, List.append_assoc]
    exact sheds
  | index key value =>
    let text := "[key: " ++ (key.render ++ ("]: " ++ (value.render ++ ";")))
    have member : Declaration.member (index key value) = Declaration.indent ++ text := by
      simp only [Declaration.member, text, String.append_assoc]
    show Text.Sheds _ ((Declaration.member (index key value)).toList ++ _)
    rw [member]
    refine line text ?_ ?_
    · simp only [text, oneLine_append]
      exact ⟨by decide, Node.oneLine_render (inLine key (.head _)), by decide,
        Node.oneLine_render (inLine value (.tail _ (.head _))), by decide⟩
    · rw [String.toList_append]
      exact Text.isComment_cons rfl (by decide) _

end Member

/-! ## Declarations -/

namespace Declaration

/-- The declaration with its documentation changed. -/
def mapDocs (f : String → String) : Declaration → Declaration
  | interface i => interface { i with doc := f i.doc, members := i.members.map (Member.mapDocs f) }
  | aliased a => aliased { a with doc := f a.doc }

/-- No name of the declaration, of a type parameter or in a reference has a newline. -/
structure InLine (d : Declaration) : Prop where
  names : ∀ name ∈ d.names, OneLine name
  nodes : ∀ n ∈ d.nodes, n.InLine

theorem oneLine_params {names : List String} (each : ∀ name ∈ names, OneLine name) :
    OneLine (params names) := by
  cases names with
  | nil => decide
  | cons name rest =>
    rw [params, oneLine_append, oneLine_append]
    · exact ⟨⟨by decide, .intercalate (by decide) each⟩, by decide⟩
    · exact fun empty => absurd empty (List.cons_ne_nil _ _)

theorem oneLine_extending {bases : List Node} (each : ∀ n ∈ bases, n.InLine) :
    OneLine (extending bases) := by
  cases bases with
  | nil => decide
  | cons base rest =>
    rw [extending, oneLine_append]
    · refine ⟨by decide, .intercalate (by decide) ?_⟩
      rw [Node.renderAll_eq_map]
      exact List.forall_mem_map.mpr fun n hn => Node.oneLine_render (each n hn)
    · exact fun empty => absurd empty (List.cons_ne_nil _ _)

/-- Declarations are whole lines, and only their documentation is comments. -/
theorem sheds_render {d : Declaration} (inLine : d.InLine) :
    Text.Sheds d.render.toList (d.mapDocs fun _ => "").render.toList := by
  have blank : Text.trim "".toList = [] := rfl
  have unindented : ∀ c ∈ "".toList, c = ' ' := by simp
  have documentation (doc : String) := sheds_comment unindented doc
  cases d with
  | interface i =>
    let heading :=
      "interface " ++ (i.name ++ (params i.typeParams ++ (extending i.bases ++ " \x7b")))
    have written : ∀ doc members,
        (interface { i with doc := doc, members := members }).render.toList =
          (comment doc "").toList ++ ((heading.toList ++ ['\n']) ++
            (members.flatMap (fun m => (member m).toList ++ ['\n']) ++ (['\x7d'] ++ ['\n']))) := by
      intro doc members
      simp [render, heading, List.flatMap_map]
    have oneLine : OneLine heading := by
      simp only [heading, oneLine_append]
      exact ⟨by decide, inLine.names i.name (.head _),
        oneLine_params fun name h => inLine.names name (.tail _ h),
        oneLine_extending fun n h => inLine.nodes n (List.mem_append_left _ h), by decide⟩
    have members : Text.Sheds (i.members.flatMap fun m => (member m).toList ++ ['\n'])
        ((i.members.map (Member.mapDocs fun _ => "")).flatMap
          fun m => (member m).toList ++ ['\n']) := by
      rw [List.flatMap_map]
      exact .flatMap fun m hm => m.sheds_member fun n hn =>
        inLine.nodes n (List.mem_append_right _ (List.mem_flatMap.mpr ⟨m, hm, hn⟩))
    show Text.Sheds (interface { i with doc := i.doc, members := i.members }).render.toList
      (interface { i with doc := "", members := i.members.map _ }).render.toList
    rw [written, written, comment_of_blank blank]
    exact (documentation i.doc).append (.append
      (.kept oneLine (String.toList_append ▸ Text.isComment_cons rfl (by decide) _))
      (members.append (.kept (by decide) rfl)))
  | aliased a =>
    let line := "type " ++ (a.name ++ (params a.typeParams ++ (" = " ++ a.target.render)))
    have written : ∀ doc, (aliased { a with doc := doc }).render.toList =
        (comment doc "").toList ++ (line.toList ++ ['\n']) := by
      intro doc
      simp [render, line]
    have oneLine : OneLine line := by
      simp only [line, oneLine_append]
      exact ⟨by decide, inLine.names a.name (.head _),
        oneLine_params fun name h => inLine.names name (.tail _ h), by decide,
        Node.oneLine_render (inLine.nodes a.target (.head _))⟩
    show Text.Sheds (aliased { a with doc := a.doc }).render.toList
      (aliased { a with doc := "" }).render.toList
    rw [written, written, comment_of_blank blank]
    exact (documentation a.doc).append
      (.kept oneLine (String.toList_append ▸ Text.isComment_cons rfl (by decide) _))

/-- Blanks around documentation do not matter. -/
theorem render_mapDocs {f : String → String}
    (same : ∀ doc, Text.trim (f doc).toList = Text.trim doc.toList) (d : Declaration) :
    (d.mapDocs f).render = d.render := by
  have comment_same : ∀ doc indentation, comment (f doc) indentation = comment doc indentation :=
    fun doc _ => by rw [comment, comment, same]
  have member_same : ∀ m : Member, member (m.mapDocs f) = member m := fun m => by
    cases m with
    | property p => rw [Member.mapDocs, member, comment_same, member]
    | index key value => rfl
  cases d with
  | interface i =>
    rw [mapDocs, render, render, comment_same, List.map_map]
    simp only [Function.comp_def, member_same]
  | aliased a => rw [mapDocs, render, render, comment_same]

/-- Is the documentation blank? -/
def isBlankDoc (doc : String) : Bool := doc.toList.all Text.isBlank

theorem trim_of_isBlankDoc {doc : String} (blank : isBlankDoc doc) :
    Text.trim doc.toList = [] := by
  have nothing : (doc.toList ++ []).dropWhile Text.isBlank = [] :=
    List.dropWhile_append_of_pos (List.all_eq_true.mp blank)
  rw [List.append_nil] at nothing
  rw [Text.trim, nothing]
  rfl

/-- Taking the comments out of the text of declarations leaves their text without documentation,
whatever their documentation is, when there are no newlines in names. Blank documentation is as
good as none. -/
theorem dropComments_renderAll (ds : List Declaration) :
    ((∀ d ∈ ds, d.InLine) → Text.dropComments (renderAll ds).toList =
      (renderAll (ds.map (mapDocs fun _ => ""))).toList) ∧
    renderAll (ds.map (mapDocs fun doc => if isBlankDoc doc then "" else doc)) =
      renderAll ds := by
  refine ⟨fun inLine => ?_, ?_⟩
  · rw [renderAll, renderAll, String.toList_intercalate, String.toList_intercalate, List.map_map,
      List.map_map, List.map_map]
    exact (Text.Sheds.intercalate fun d hd => sheds_render (inLine d hd)).dropComments
  · have same : ∀ doc, Text.trim (if isBlankDoc doc then "" else doc).toList =
        Text.trim doc.toList := fun doc => by
      split
      · rename_i blank
        rw [trim_of_isBlankDoc blank]
        rfl
      · rfl
    rw [renderAll, renderAll, List.map_map]
    exact congrArg _ (List.map_congr_left fun d _ => d.render_mapDocs same)

/-- Documentation that looks like the end of the interface and a further declaration, on a
declaration and on a property whose name needs quotes. -/
theorem dropComments_renderAll_braces :
    let doc := "done\r\n\x7d\n\n// type Name = \"any\"\ntype Name = any"
    let ds := [interface ⟨"Entry", ["T"], doc, [],
      [.property ⟨"// note\n", true, doc, .array (.reference "T" [])⟩]⟩]
    (∀ d ∈ ds, d.InLine) ∧
      Text.dropComments (renderAll ds).toList =
        (renderAll (ds.map (mapDocs fun _ => ""))).toList := by
  intro doc ds
  have inLine : ∀ d ∈ ds, d.InLine := by
    refine List.forall_mem_singleton.mpr ⟨by decide, List.forall_mem_singleton.mpr ?_⟩
    rintro name args (_ | _ | part)
    cases part with
    | refl => decide
    | arg mem _ => cases mem
  exact ⟨inLine, (dropComments_renderAll ds).1 inLine⟩

end Declaration

end SchemaDialogue
