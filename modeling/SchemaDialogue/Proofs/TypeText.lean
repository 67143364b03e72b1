import SchemaDialogue.Proofs.NormalForm
import SchemaDialogue.Proofs.Terms

/-!
# The text of types

What is written for a node is the text of terms, and these stand for its normal form
(`Node.exists_terms`): for a union they are those of its flat members, for any other node there is
one. So the text of a node determines its normal form, and where it ends (`Node.clear`).
-/

namespace SchemaDialogue

namespace Term

variable {numerals : Set Number}

/-! ## What terms stand for -/

/-- The node of that many arrays, one in the other. -/
def arrays : Nat → Node → Node
  | 0, n => n
  | depth + 1, n => .array (arrays depth n)

/-- The node of a word with arguments, which are given by their members. -/
def headNode : Head → List (List Node) → Node
  | .keyword (.primitive p), _ => .primitive p
  | .keyword (.boolean b), _ => .literal (.boolean b)
  | .keyword .array, args => .array (.union args.flatten)
  | .name name, args => .reference name (args.map Node.ofMembers)
  | .number n, _ => .literal (.number n)

mutual

/-- The node that a term stands for. -/
def node : Term → Node
  | word head args depth => arrays depth (headNode head (typeNodes args))
  | quoted s depth => arrays depth (.literal (.string s))
  | tuple elements depth => arrays depth (.tuple ((typeNodes elements).map Node.ofMembers))

/-- The members of types. -/
def typeNodes : List (List Term) → List (List Node)
  | [] => []
  | ts :: rest => nodes ts :: typeNodes rest

/-- The nodes of terms. -/
def nodes : List Term → List Node
  | [] => []
  | t :: rest => t.node :: nodes rest

end

theorem nodes_eq_map (ts : List Term) : nodes ts = ts.map node := by
  induction ts with
  | nil => rfl
  | cons t rest ih => rw [nodes, ih, List.map_cons]

/-- The term with one more pair of brackets. -/
def deeper : Term → Term
  | word head args depth => word head args (depth + 1)
  | quoted s depth => quoted s (depth + 1)
  | tuple elements depth => tuple elements (depth + 1)

theorem node_deeper (u : Term) : u.deeper.node = .array u.node := by
  cases u <;> rfl

theorem text_deeper (u : Term) : u.deeper.text = u.text ++ ['[', ']'] := by
  have brackets_succ : ∀ depth, brackets (depth + 1) = brackets depth ++ ['[', ']'] := by
    intro depth
    rw [brackets, List.replicate_succ', List.flatten_append]
    rfl
  cases u with
  | word head args depth =>
    rw [deeper, text_word ∅, text_word ∅, brackets_succ, List.append_assoc, List.append_assoc]
  | quoted s depth =>
    rw [deeper, text_quoted, text_quoted, brackets_succ, List.append_assoc]
  | tuple elements depth =>
    rw [deeper, text_tuple ∅, text_tuple ∅, brackets_succ, List.cons_append, List.append_assoc]
    rfl

theorem Proper.deeper {u : Term} (proper : u.Proper numerals) : u.deeper.Proper numerals := by
  cases proper with
  | word plain nonempty proper => exact .word plain nonempty proper
  | quoted => exact .quoted
  | tuple nonempty proper => exact .tuple nonempty proper

/-- A text is that of a proper term, which stands for a node. -/
def Writes (numerals : Set Number) (entry : String × Node) : Prop :=
  ∃ u : Term, u.Proper numerals ∧ u.text = entry.1.toList ∧ u.node = entry.2

/-- What is written entry by entry. -/
theorem exists_terms {entries : Entries Node} (each : ∀ e ∈ entries, Writes numerals e) :
    ∃ ts : List Term, (∀ t ∈ ts, t.Proper numerals) ∧
      ts.map text = entries.keys.map String.toList ∧ ts.map node = entries.map (·.2) := by
  induction entries with
  | nil => exact ⟨[], fun _ h => (nomatch h), rfl, rfl⟩
  | cons entry rest ih =>
    obtain ⟨⟨u, proper, text, node⟩, others⟩ := List.forall_mem_cons.mp each
    obtain ⟨ts, properTerms, texts, nodes⟩ := ih others
    refine ⟨u :: ts, List.forall_mem_cons.mpr ⟨proper, properTerms⟩, ?_, ?_⟩
    · rw [List.map_cons, text, texts]
      rfl
    · rw [List.map_cons, node, nodes, List.map_cons]

end Term

namespace Node

open Term

/-- All names in the node are plain, and all numbers are among these. -/
structure Plain (numerals : Set Number) (n : Node) : Prop where
  names : ∀ {name args}, Part (reference name args) n → IsPlainName name
  numbers : ∀ {x}, Part (literal (.number x)) n → x ∈ numerals

variable {numerals : Set Number} {n : Node}

theorem Part.trans {l m n : Node} (h : Part l m) (h' : Part m n) : Part l n := by
  induction h' with
  | refl => exact h
  | arg mem _ ih => exact .arg mem ih
  | array _ ih => exact .array ih
  | tuple mem _ ih => exact .tuple mem ih
  | union mem _ ih => exact .union mem ih

theorem Plain.part {m : Node} (plain : n.Plain numerals) (h : Part m n) : m.Plain numerals where
  names part := plain.names (part.trans h)
  numbers part := plain.numbers (part.trans h)

theorem plain_primitive (p : Primitive) : (primitive p).Plain numerals where
  names h := nomatch h
  numbers h := nomatch h

theorem plain_string (s : String) : (literal (.string s)).Plain numerals where
  names h := nomatch h
  numbers h := nomatch h

theorem plain_number {x : Number} (mem : x ∈ numerals) : (literal (.number x)).Plain numerals where
  names h := nomatch h
  numbers h := by
    cases h with
    | refl => exact mem

theorem plain_reference {name : String} {args : List Node} (plain : IsPlainName name)
    (each : ∀ a ∈ args, a.Plain numerals) : (reference name args).Plain numerals where
  names h := by
    cases h with
    | refl => exact plain
    | arg mem part => exact (each _ mem).names part
  numbers h := by
    cases h with
    | arg mem part => exact (each _ mem).numbers part

theorem plain_union {members : List Node} (each : ∀ m ∈ members, m.Plain numerals) :
    (union members).Plain numerals where
  names h := by
    cases h with
    | union mem part => exact (each _ mem).names part
  numbers h := by
    cases h with
    | union mem part => exact (each _ mem).numbers part

/-- The node is written as terms, which stand for its normal form. -/
def IsWritten (numerals : Set Number) (n : Node) : Prop :=
  ∃ ts : List Term, ts ≠ [] ∧ (∀ t ∈ ts, t.Proper numerals) ∧
    (typeFormat numerals).text ts = n.render.toList ∧ ofMembers (ts.map node) = n.normal

/-- What is written node by node. -/
theorem exists_types {ns : List Node} (each : ∀ n ∈ ns, IsWritten numerals n) :
    ∃ types : List (List Term), Types numerals types ∧
      types.map (typeFormat numerals).text = (renderAll ns).map String.toList ∧
      (typeNodes types).map ofMembers = normalAll ns := by
  induction ns with
  | nil => exact ⟨[], fun _ h => (nomatch h), rfl, rfl⟩
  | cons n rest ih =>
    obtain ⟨⟨ts, nonempty, proper, text, node⟩, others⟩ := List.forall_mem_cons.mp each
    obtain ⟨types, properTypes, texts, nodes⟩ := ih others
    refine ⟨ts :: types, List.forall_mem_cons.mpr ⟨⟨nonempty, proper⟩, properTypes⟩, ?_, ?_⟩
    · rw [List.map_cons, text, texts]
      rfl
    · rw [typeNodes, List.map_cons, nodes, nodes_eq_map, node]
      rfl

theorem text_list {types : List (List Term)} {ns : List Node}
    (texts : types.map (typeFormat numerals).text = (renderAll ns).map String.toList) :
    (listFormat numerals).text types = (String.intercalate ", " (renderAll ns)).toList := by
  rw [String.toList_intercalate, ← texts]
  rfl

/-- A node that is no union is written as one term. -/
theorem isWritten_of_writes (h : Writes numerals (n.render, n.normal)) :
    IsWritten numerals n := by
  obtain ⟨u, proper, text, node⟩ := h
  refine ⟨[u], List.cons_ne_nil _ _, List.forall_mem_singleton.mpr proper, ?_, node⟩
  rw [← text]
  exact Format.text_singleton _ _

theorem writes_primitive (p : Primitive) :
    Writes numerals ((primitive p).render, (primitive p).normal) :=
  ⟨.word (.keyword (.primitive p)) [] 0,
    .word trivial (List.forall_mem_nil _) (List.forall_mem_nil _), List.append_nil _, rfl⟩

/-- The flat members of a union are written as terms when its leaves are. -/
theorem exists_members {members : List Node} (each : ∀ e ∈ leaves members, Writes numerals e) :
    ∃ ts : List Term, ts ≠ [] ∧ (∀ t ∈ ts, t.Proper numerals) ∧
      (typeFormat numerals).text ts = (union members).render.toList ∧
      ts.map node = (flatUnion (leaves members) (someNull members)).map (·.2) := by
  obtain ⟨ts, proper, texts, nodes⟩ := exists_terms
    (forall_mem_flatUnion each (writes_primitive .null) (writes_primitive .never)
      (someNull members))
  refine ⟨ts, ?_, proper, ?_, nodes⟩
  · rintro rfl
    exact flatUnion_ne_nil _ _ (List.map_eq_nil_iff.mp nodes.symm)
  · rw [render, ← keys_leaves, unionText_keys, String.toList_intercalate, ← texts]
    rfl

theorem isWritten_union {members : List Node} (each : ∀ e ∈ leaves members, Writes numerals e) :
    IsWritten numerals (union members) := by
  obtain ⟨ts, nonempty, proper, text, nodes⟩ := exists_members each
  exact ⟨ts, nonempty, proper, text, by rw [nodes, normal]⟩

theorem isWritten_of_own {n : Node} (each : ∀ e ∈ n.own, Writes numerals e) :
    IsWritten numerals n := by
  cases n with
  | union members => exact isWritten_union each
  | _ => exact isWritten_of_writes (each _ (.head _))

theorem writes_literal {l : LiteralNode} (plain : (literal l).Plain numerals) :
    Writes numerals ((literal l).render, (literal l).normal) := by
  cases l with
  | string s =>
    refine ⟨.quoted s 0, .quoted, ?_, rfl⟩
    rw [text_quoted, render, LiteralNode.render, Json.quote, String.toList_ofList]
    exact List.append_nil _
  | number x =>
    have proper : (word (.number x) [] 0).Proper numerals :=
      .word (plain.numbers .refl) (List.forall_mem_nil _) (List.forall_mem_nil _)
    exact ⟨_, proper, List.append_nil _, rfl⟩
  | boolean b =>
    have proper : (word (.keyword (.boolean b)) [] 0).Proper numerals :=
      .word trivial (List.forall_mem_nil _) (List.forall_mem_nil _)
    exact ⟨_, proper, List.append_nil _, rfl⟩

theorem writes_reference {name : String} {args : List Node} (plain : IsPlainName name)
    (each : ∀ a ∈ args, IsWritten numerals a) :
    Writes numerals ((reference name args).render, (reference name args).normal) := by
  obtain ⟨types, proper, texts, nodes⟩ := exists_types each
  refine ⟨.word (.name name) types 0, .word plain (fun ts hts => (proper ts hts).1)
    (fun ts hts => (proper ts hts).2), ?_, ?_⟩
  · rw [text_word numerals]
    cases args with
    | nil =>
      rw [List.map_eq_nil_iff.mp texts]
      exact List.append_nil _
    | cons arg args =>
      cases types with
      | nil => cases texts
      | cons ts types =>
        have list : ((typeFormat numerals).separated ", ").text (ts :: types) = _ := text_list texts
        rw [Format.angled, list, render, String.toList_append, String.toList_append,
          String.toList_append, List.append_assoc, List.append_assoc]
        exact congrArg _ (List.append_nil _)
  · show Node.reference name ((typeNodes types).map ofMembers) = _
    rw [nodes, normal]

theorem writes_tuple {elements : List Node} (each : ∀ e ∈ elements, IsWritten numerals e) :
    Writes numerals ((tuple elements).render, (tuple elements).normal) := by
  obtain ⟨types, proper, texts, nodes⟩ := exists_types each
  refine ⟨.tuple types 0, .tuple (fun ts hts => (proper ts hts).1)
    (fun ts hts => (proper ts hts).2), ?_, ?_⟩
  · rw [text_tuple numerals, text_list texts, render, String.toList_append, String.toList_append]
    rfl
  · show Node.tuple ((typeNodes types).map ofMembers) = _
    rw [nodes, normal]

theorem writes_array {element : Node} (each : ∀ e ∈ element.own, Writes numerals e) :
    Writes numerals ((array element).render, (array element).normal) := by
  -- around a union stands the word for arrays, after any other type a pair of brackets
  by_cases isUnion : element.isUnion
  · cases element with
    | union members =>
      obtain ⟨ts, nonempty, proper, text, nodes⟩ := exists_members each
      refine ⟨.word (.keyword .array) [ts] 0, .word trivial
        (List.forall_mem_singleton.mpr nonempty) (List.forall_mem_singleton.mpr proper), ?_, ?_⟩
      · rw [text_word numerals, Format.angled, Format.text_singleton, text, render, render,
          String.toList_append, String.toList_append, List.append_assoc]
        exact congrArg _ (List.append_nil _)
      · show Node.array (.union ((typeNodes [ts]).flatten)) = _
        rw [typeNodes, nodes_eq_map, nodes, typeNodes, List.flatten_singleton, normal]
    | _ => cases isUnion
  · have notUnion := Bool.eq_false_iff.mpr isUnion
    rw [own_of_not_union notUnion] at each
    obtain ⟨u, proper, text, node⟩ := each _ (.head _)
    refine ⟨u.deeper, proper.deeper, ?_, ?_⟩
    · rw [text_deeper, text, render_array notUnion, String.toList_append]
      rfl
    · rw [node_deeper, node, normal_array notUnion]

/-- The normal forms of a node are written as terms. -/
theorem writes_own (plain : n.Plain numerals) : ∀ e ∈ n.own, Writes numerals e := by
  induction n using Node.induction with
  | primitive p => exact List.forall_mem_singleton.mpr (writes_primitive p)
  | literal l => exact List.forall_mem_singleton.mpr (writes_literal plain)
  | reference name args ih =>
    refine List.forall_mem_singleton.mpr (writes_reference (plain.names .refl) fun a ha => ?_)
    exact isWritten_of_own (ih a ha (plain.part (.arg ha .refl)))
  | tuple elements ih =>
    refine List.forall_mem_singleton.mpr (writes_tuple fun e he => ?_)
    exact isWritten_of_own (ih e he (plain.part (.tuple he .refl)))
  | array element ih =>
    exact List.forall_mem_singleton.mpr (writes_array (ih (plain.part (.array .refl))))
  | union members ih =>
    -- each leaf of the union is one of a member, however deep
    intro e he
    obtain ⟨m, hm, _, he⟩ := mem_leaves he
    exact ih m hm (plain.part (.union hm .refl)) e he

/-- The node is written as terms, which stand for its normal form. -/
theorem isWritten (plain : n.Plain numerals) : IsWritten numerals n :=
  isWritten_of_own (writes_own plain)

/-- Types, which mean their normal forms. -/
def format (numerals : Set Number) : Format Node Node where
  text n := n.render.toList
  meaning := normal
  Valid := Plain numerals
  Follows := (typeFormat numerals).Follows

/-- **The text of a type determines its normal form, and where it ends.** -/
theorem clear (injective : Set.InjOn Number.text numerals) (plain : n.Plain numerals) :
    (format numerals).Clear n := by
  intro n' s t plain' hs ht same
  obtain ⟨ts, nonempty, proper, text, node⟩ := isWritten plain
  obtain ⟨ts', nonempty', proper', text', node'⟩ := isWritten plain'
  have same : n.render.toList ++ s = n'.render.toList ++ t := same
  rw [← text, ← text'] at same
  have clear : ∀ t ∈ ts, (Term.format numerals).Clear t :=
    fun t ht => Term.clear injective (proper t ht)
  obtain ⟨terms, after⟩ := clear_type nonempty clear ⟨nonempty', proper'⟩ hs ht same
  refine ⟨?_, after⟩
  have terms : ts.map id = ts'.map id := terms
  rw [List.map_id, List.map_id] at terms
  show n.normal = n'.normal
  rw [← node, ← node', terms]

end Node

end SchemaDialogue
