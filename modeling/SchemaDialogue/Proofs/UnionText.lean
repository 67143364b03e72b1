import Mathlib.Logic.Relation
import SchemaDialogue.Proofs.NormalForm

/-!
# The text of unions

A union is written by what it lists, however its members are nested.

* **leaves** — `Node.flat` flattens unions in unions. The text of a union is read off its leaves:
  the texts of those other than `null`, each where it first occurs, and `null` behind them.
* **gathering** — the same text comes from one walk through the members that carries what has been
  gathered so far, texts and a mark for `null` (`Node.text_gather`).
* **recasting** — members are grouped, repeated later on, and `null` is moved and repeated. A step
  keeps what a node lists (`Node.Recast.similar`), at any depth, and so the text of the node and of
  all declarations around it.
-/

namespace SchemaDialogue

/-! ## Lists -/

/-- Related elements that are mapped alike. -/
theorem map_eq_map_of_forall₂ {α β : Type} {R : α → α → Prop} {f : α → β}
    (same : ∀ a b, R a b → f a = f b) {l l' : List α} (h : List.Forall₂ R l l') :
    l.map f = l'.map f := by
  induction h with
  | nil => rfl
  | cons first _ ih => rw [List.map_cons, List.map_cons, same _ _ first, ih]

/-- Keeping the first of each text is what the standard library calls erasing duplicates. -/
theorem distinct_eq_eraseDups : ∀ l : List String, distinct l = l.eraseDups
  | [] => rfl
  | a :: rest => by
    rw [distinct, List.eraseDups_cons, ← distinct_eq_eraseDups (rest.filter _), distinct_filter]
    refine congrArg _ (List.filter_congr fun b _ => ?_)
    by_cases same : b = a <;> simp [same]
termination_by l => l.length
decreasing_by exact Nat.lt_succ_of_le (List.length_filter_le _ _)

theorem eraseDups_removeAll (l before : List String) :
    (l.removeAll before).eraseDups = l.eraseDups.removeAll before := by
  rw [List.removeAll, ← distinct_eq_eraseDups, distinct_filter, distinct_eq_eraseDups]
  rfl

/-- In a row, only the first occurrences of a part matter. -/
theorem eraseDups_append_congr {l l' : List String} (same : l.eraseDups = l'.eraseDups)
    (before after : List String) :
    (before ++ l ++ after).eraseDups = (before ++ l' ++ after).eraseDups := by
  have mem : ∀ a, a ∈ l ↔ a ∈ l' := fun a => by
    rw [← List.mem_eraseDups (l := l), same, List.mem_eraseDups]
  have first : (before ++ l).eraseDups = (before ++ l').eraseDups := by
    rw [List.eraseDups_append, eraseDups_removeAll, same, ← eraseDups_removeAll,
      ← List.eraseDups_append]
  have second : after.removeAll (before ++ l) = after.removeAll (before ++ l') :=
    List.filter_congr fun a _ => by simp [mem a]
  calc (before ++ l ++ after).eraseDups
      = (before ++ l).eraseDups ++ (after.removeAll (before ++ l)).eraseDups :=
        List.eraseDups_append
    _ = (before ++ l').eraseDups ++ (after.removeAll (before ++ l')).eraseDups := by
        rw [first, second]
    _ = (before ++ l' ++ after).eraseDups := List.eraseDups_append.symm

/-- What has occurred before is not missed. -/
theorem eraseDups_append_of_subset {before l : List String} (known : ∀ a ∈ l, a ∈ before) :
    (before ++ l).eraseDups = before.eraseDups := by
  have nothing : l.removeAll before = [] :=
    List.filter_eq_nil_iff.mpr fun a mem => by simp [known a mem]
  rw [List.eraseDups_append, nothing, List.eraseDups_nil, List.append_nil]

namespace Node

/-! ## Leaves -/

mutual

/-- The leaves of a node: those of its members, if it is a union, and otherwise the node itself. -/
def flat : Node → List Node
  | union members => flatAll members
  | n => [n]

/-- The leaves of nodes, in order. -/
def flatAll : List Node → List Node
  | [] => []
  | n :: rest => n.flat ++ flatAll rest

end

/-- The texts of leaves other than `null`. -/
def texts (leaves : List Node) : List String := (leaves.filter (!·.isNull)).map render

variable {n m : Node} {members : List Node}

theorem flat_of_not_union (h : n.isUnion = false) : n.flat = [n] := by
  cases n with
  | union _ => cases h
  | _ => rfl

theorem eq_null_of_isNull (h : n.isNull = true) : n = primitive .null := by
  cases n with
  | primitive p => cases p <;> first | rfl | cases h
  | _ => cases h

theorem flatAll_append (ns ms : List Node) : flatAll (ns ++ ms) = flatAll ns ++ flatAll ms := by
  induction ns with
  | nil => rfl
  | cons n rest ih => rw [List.cons_append, flatAll, ih, flatAll, List.append_assoc]

/-- The leaves of members around one of them. -/
theorem flatAll_around (before after : List Node) :
    flatAll (before ++ n :: after) = flatAll before ++ n.flat ++ flatAll after := by
  rw [flatAll_append, flatAll, List.append_assoc]

theorem mem_flatAll {ns : List Node} {leaf : Node} (hn : n ∈ ns) (hleaf : leaf ∈ n.flat) :
    leaf ∈ flatAll ns := by
  obtain ⟨before, after, rfl⟩ := List.append_of_mem hn
  rw [flatAll_around]
  exact List.mem_append_left _ (List.mem_append_right _ hleaf)

theorem texts_append (ls ms : List Node) : texts (ls ++ ms) = texts ls ++ texts ms := by
  rw [texts, List.filter_append, List.map_append, ← texts, ← texts]

theorem texts_singleton (n : Node) : texts [n] = if n.isNull then [] else [n.render] := by
  cases null : n.isNull <;> simp [texts, null]

theorem leafTexts_eq_texts : ∀ ns : List Node, leafTexts ns = texts (flatAll ns)
  | [] => rfl
  | union inner :: rest => by
    rw [leafTexts, leafTexts_eq_texts inner, leafTexts_eq_texts rest, ← texts_append]
    rfl
  | primitive p :: rest => by
    have later := leafTexts_eq_texts rest
    cases p with
    | null => exact later
    | _ => exact congrArg (List.cons _) later
  | reference _ _ :: rest | array _ :: rest | tuple _ :: rest | literal _ :: rest =>
    congrArg (List.cons _) (leafTexts_eq_texts rest)

theorem someNull_eq_any (ns : List Node) : someNull ns = (flatAll ns).any isNull := by
  have all : ∀ ns : List Node, (∀ n ∈ ns, n.admitsNull = n.flat.any isNull) →
      someNull ns = (flatAll ns).any isNull := by
    intro ns each
    induction ns with
    | nil => rfl
    | cons n rest ih =>
      obtain ⟨first, others⟩ := List.forall_mem_cons.mp each
      rw [someNull, flatAll, List.any_append, first, ih others]
  have own : ∀ n : Node, n.admitsNull = n.flat.any isNull := by
    intro n
    induction n using Node.induction with
    | union members ih => exact all members ih
    | primitive p => cases p <;> rfl
    | _ => rfl
  exact all ns fun n _ => own n

/-- Repetitions are not written. -/
theorem unionText_congr {parts parts' : List String} (same : parts.eraseDups = parts'.eraseDups)
    (nullable : Bool) : unionText parts nullable = unionText parts' nullable := by
  rw [unionText, unionText, distinct_eq_eraseDups, distinct_eq_eraseDups, same]

/-- What the texts of leaves and the mark for `null` are made into. -/
theorem unionText_eq (parts : List String) (nullable : Bool) :
    unionText parts nullable =
      if parts = [] ∧ nullable = false then "never"
      else String.intercalate " | " (parts.eraseDups ++ if nullable then ["null"] else []) := by
  rw [unionText, distinct_eq_eraseDups]
  cases parts with
  | nil => cases nullable <;> rfl
  | cons first rest =>
    have some : ¬(first :: rest = [] ∧ nullable = false) := fun h => List.cons_ne_nil _ _ h.1
    rw [List.eraseDups_cons, if_neg some]
    rfl

/-- A union without leaves has neither texts nor `null` to write. -/
theorem flatAll_eq_nil_iff (leaves : List Node) :
    texts leaves = [] ∧ leaves.any isNull = false ↔ leaves = [] := by
  cases leaves with
  | nil => simp [texts]
  | cons leaf rest => cases null : leaf.isNull <;> simp [texts, null]

theorem render_union_eq_unionText (members : List Node) :
    (union members).render =
      unionText (texts (flatAll members)) ((flatAll members).any isNull) := by
  rw [render, leafTexts_eq_texts, someNull_eq_any]

/-- The text of a union is read off its leaves. -/
theorem render_union_eq (members : List Node) :
    (union members).render =
      if flatAll members = [] then "never"
      else String.intercalate " | " ((texts (flatAll members)).eraseDups ++
        if (flatAll members).any isNull then ["null"] else []) := by
  rw [render_union_eq_unionText, unionText_eq]
  simp only [flatAll_eq_nil_iff]

/-! ## Gathering -/

/-- What has been gathered of a union: texts, none twice, and whether `null` was among the
leaves. -/
structure Gathered where
  texts : List String := []
  nullable : Bool := false

namespace Gathered

/-- Gather a leaf. -/
def add (g : Gathered) (leaf : Node) : Gathered :=
  if leaf.isNull then { g with nullable := true }
  else if leaf.render ∈ g.texts then g
  else { g with texts := g.texts ++ [leaf.render] }

/-- The text of the union that has been gathered. -/
def text (g : Gathered) : String :=
  match g.texts ++ (if g.nullable then ["null"] else []) with
  | [] => "never"
  | parts => String.intercalate " | " parts

end Gathered

mutual

/-- Gather a member of a union. -/
def gatherOne : Node → Gathered → Gathered
  | union inner, g => gather inner g
  | n, g => g.add n

/-- Gather the members of a union one after the other. -/
def gather : List Node → Gathered → Gathered
  | [], g => g
  | n :: rest, g => gather rest (n.gatherOne g)

end

theorem gather_eq_foldl (ns : List Node) (g : Gathered) :
    gather ns g = (flatAll ns).foldl Gathered.add g := by
  have all : ∀ ns : List Node, (∀ n ∈ ns, ∀ g, n.gatherOne g = n.flat.foldl Gathered.add g) →
      ∀ g, gather ns g = (flatAll ns).foldl Gathered.add g := by
    intro ns each
    induction ns with
    | nil => exact fun g => rfl
    | cons n rest ih =>
      obtain ⟨first, others⟩ := List.forall_mem_cons.mp each
      intro g
      rw [gather, flatAll, List.foldl_append, first, ih others]
  have own : ∀ (n : Node) (g : Gathered), n.gatherOne g = n.flat.foldl Gathered.add g := by
    intro n
    induction n using Node.induction with
    | union members ih => exact all members ih
    | _ => exact fun g => rfl
  exact all ns (fun n _ => own n) g

/-- What a row of leaves adds to what has been gathered. -/
theorem foldl_add (leaves : List Node) (g : Gathered) :
    leaves.foldl Gathered.add g =
      ⟨g.texts ++ ((texts leaves).removeAll g.texts).eraseDups,
        g.nullable || leaves.any isNull⟩ := by
  induction leaves generalizing g with
  | nil => simp [texts]
  | cons leaf rest ih =>
    rw [List.foldl_cons, ih, Gathered.add]
    cases null : leaf.isNull with
    | true => simp [texts, null]
    | false =>
      by_cases known : leaf.render ∈ g.texts
      · simp [texts, null, known, List.removeAll]
      · -- the text goes behind the others, where it is not to come again
        have first : (texts (leaf :: rest)).removeAll g.texts =
            leaf.render :: (texts rest).removeAll g.texts := by
          simp [texts, null, known, List.removeAll]
        have again : (texts rest).removeAll (g.texts ++ [leaf.render]) =
            ((texts rest).removeAll g.texts).filter (fun b => !b == leaf.render) := by
          rw [List.removeAll, List.removeAll, List.filter_filter]
          refine List.filter_congr fun b _ => ?_
          by_cases same : b = leaf.render <;> by_cases old : b ∈ g.texts <;> simp [same, old]
        rw [first, List.eraseDups_cons, ← again, if_neg Bool.false_ne_true, if_neg known,
          List.append_assoc, List.any_cons, null, Bool.false_or]
        rfl

/-- Gathering the members of a union gives its text. -/
theorem text_gather (members : List Node) : (gather members {}).text = (union members).render := by
  have all : (texts (flatAll members)).removeAll [] = texts (flatAll members) :=
    List.filter_eq_self.mpr fun _ _ => rfl
  rw [gather_eq_foldl, foldl_add, render_union_eq_unionText, unionText, distinct_eq_eraseDups, all]
  rfl

/-! ## Recasting -/

/-- An array of a union is written with a word, any other with brackets. -/
theorem render_array_eq (n : Node) :
    (array n).render = if n.isUnion then "Array<" ++ n.render ++ ">" else n.render ++ "[]" := by
  cases n <;> rfl

theorem render_reference_append (name : String) (before after : List Node) :
    (reference name (before ++ n :: after)).render =
      name ++ "<" ++ String.intercalate ", "
        (before.map render ++ n.render :: after.map render) ++ ">" := by
  rw [← List.map_cons, ← List.map_append, ← renderAll_eq_map]
  cases before <;> rfl

/-- One step from a node to one that lists the same, in a union anywhere in it. -/
inductive Recast : Node → Node → Prop
  /-- Members that follow each other become a union of their own. -/
  | group (before inner after : List Node) :
      Recast (union (before ++ inner ++ after)) (union (before ++ union inner :: after))
  /-- A member comes again, later. -/
  | again (before : List Node) (m : Node) (after : List Node) (h : m ∈ before) :
      Recast (union (before ++ after)) (union (before ++ m :: after))
  /-- `null` is moved. -/
  | move (before after before' after' : List Node) (h : before ++ after = before' ++ after') :
      Recast (union (before ++ primitive .null :: after))
        (union (before' ++ primitive .null :: after'))
  /-- `null` comes again, anywhere. -/
  | null (before after : List Node) (h : primitive .null ∈ before ++ after) :
      Recast (union (before ++ after)) (union (before ++ primitive .null :: after))
  | member (before after : List Node) {n m : Node} (h : Recast n m) :
      Recast (union (before ++ n :: after)) (union (before ++ m :: after))
  | argument (name : String) (before after : List Node) {n m : Node} (h : Recast n m) :
      Recast (reference name (before ++ n :: after)) (reference name (before ++ m :: after))
  | element {n m : Node} (h : Recast n m) : Recast (array n) (array m)
  | item (before after : List Node) {n m : Node} (h : Recast n m) :
      Recast (tuple (before ++ n :: after)) (tuple (before ++ m :: after))

/-- Steps lead from one node to the other, forth and back. -/
def Alike : Node → Node → Prop := Relation.EqvGen Recast

/-- Leaves with the same texts other than `null`, but for repetitions, and `null` in both or in
neither. -/
structure SameContent (ls ms : List Node) : Prop where
  written : (texts ls).eraseDups = (texts ms).eraseDups
  nullable : ls.any isNull = ms.any isNull

namespace SameContent

variable {ls ms before : List Node}

theorem refl (ls : List Node) : SameContent ls ls := ⟨rfl, rfl⟩

theorem around (same : SameContent ls ms) (before after : List Node) :
    SameContent (before ++ ls ++ after) (before ++ ms ++ after) where
  written := by
    simp only [texts_append]
    exact eraseDups_append_congr same.written _ _
  nullable := by simp only [List.any_append, same.nullable]

/-- Leaves that have occurred before add nothing. -/
theorem again (known : ∀ l ∈ ls, l ∈ before) (after : List Node) :
    SameContent (before ++ after) (before ++ ls ++ after) := by
  have first : SameContent before (before ++ ls) := by
    refine ⟨?_, ?_⟩
    · rw [texts_append]
      refine (eraseDups_append_of_subset fun a mem => ?_).symm
      obtain ⟨l, hl, rfl⟩ := List.mem_map.mp mem
      obtain ⟨hl, proper⟩ := List.mem_filter.mp hl
      exact List.mem_map_of_mem (List.mem_filter.mpr ⟨known l hl, proper⟩)
    · rw [List.any_append, Bool.eq_iff_iff, Bool.or_eq_true]
      refine ⟨.inl, fun h => h.elim id fun h => ?_⟩
      obtain ⟨l, hl, null⟩ := List.any_eq_true.mp h
      exact List.any_eq_true.mpr ⟨l, known l hl, null⟩
  exact first.around [] after

/-- A single leaf is known by its text. -/
theorem render_singleton (same : SameContent [n] [m]) : n.render = m.render := by
  obtain ⟨written, nullable⟩ := same
  rw [texts_singleton, texts_singleton] at written
  simp only [List.any_cons, List.any_nil, Bool.or_false] at nullable
  cases null : m.isNull with
  | true => rw [eq_null_of_isNull (nullable.trans null), eq_null_of_isNull null]
  | false =>
    rw [nullable, null] at written
    exact (List.cons.inj written).1

end SameContent

/-- Where `null` stands among leaves makes no difference to their texts. -/
theorem texts_null (before after : List Node) :
    texts (before ++ [primitive .null] ++ after) = texts (before ++ after) := by
  rw [texts_append, texts_append, texts_append, show texts [primitive .null] = [] from rfl,
    List.append_nil]

/-- Nodes that can take each other's place: both unions, or neither, with the same content. -/
structure Similar (n m : Node) : Prop where
  isUnion : n.isUnion = m.isUnion
  content : SameContent n.flat m.flat

/-- Nodes that are neither unions nor `null` are similar when they are written alike. -/
theorem Similar.of_render (hn : n.flat = [n]) (hm : m.flat = [m]) (form : n.isUnion = m.isUnion)
    (null : n.isNull = m.isNull) (same : n.render = m.render) : n.Similar m where
  isUnion := form
  content := by
    rw [hn, hm]
    refine ⟨?_, ?_⟩
    · rw [texts_singleton, texts_singleton, null, same]
    · rw [List.any_cons, List.any_cons, null]

theorem Similar.render (similar : n.Similar m) : n.render = m.render := by
  obtain ⟨form, same⟩ := similar
  cases hm : m.isUnion with
  | true =>
    cases n with
    | union ns =>
      cases m with
      | union ms =>
        rw [render_union_eq_unionText, render_union_eq_unionText]
        exact (unionText_congr same.written _).trans (congrArg _ same.nullable)
      | _ => cases hm
    | _ => cases form.trans hm
  | false =>
    rw [flat_of_not_union (form.trans hm), flat_of_not_union hm] at same
    exact same.render_singleton

theorem Similar.array (similar : n.Similar m) : (array n).Similar (array m) := by
  -- the form of an array depends on its element being a union, which similar nodes agree on
  refine .of_render rfl rfl rfl rfl ?_
  rw [render_array_eq, render_array_eq, similar.isUnion, similar.render]

/-- A step keeps what a node lists. -/
theorem Recast.similar (step : Recast n m) : n.Similar m := by
  induction step with
  | group before inner after =>
    refine ⟨rfl, ?_⟩
    show SameContent (flatAll (before ++ inner ++ after)) (flatAll (before ++ union inner :: after))
    rw [flatAll_around, flatAll_append, flatAll_append]
    exact .refl _
  | again before m after h =>
    refine ⟨rfl, ?_⟩
    show SameContent (flatAll (before ++ after)) (flatAll (before ++ m :: after))
    rw [flatAll_around, flatAll_append]
    exact .again (fun l hl => mem_flatAll h hl) _
  | move before after before' after' h =>
    have leaves : flatAll before ++ flatAll after = flatAll before' ++ flatAll after' := by
      rw [← flatAll_append, h, flatAll_append]
    refine ⟨rfl, ?_⟩
    show SameContent (flatAll (before ++ _ :: after)) (flatAll (before' ++ _ :: after'))
    rw [flatAll_around, flatAll_around]
    refine ⟨?_, ?_⟩
    · show (texts (_ ++ [primitive .null] ++ _)).eraseDups = _
      rw [texts_null, leaves, ← texts_null]
      rfl
    · simp [flat, isNull]
  | null before after h =>
    refine ⟨rfl, ?_⟩
    show SameContent (flatAll (before ++ after)) (flatAll (before ++ _ :: after))
    rw [flatAll_around, flatAll_append]
    refine ⟨?_, ?_⟩
    · show _ = (texts (_ ++ [primitive .null] ++ _)).eraseDups
      rw [texts_null]
    · have before : primitive .null ∈ flatAll before ++ flatAll after := by
        rw [← flatAll_append]
        exact mem_flatAll h (.head _)
      rw [List.any_eq_true.mpr ⟨_, before, rfl⟩]
      simp [flat, isNull]
  | @member before after n m step ih =>
    refine ⟨rfl, ?_⟩
    show SameContent (flatAll (before ++ n :: after)) (flatAll (before ++ m :: after))
    rw [flatAll_around, flatAll_around]
    exact ih.content.around _ _
  | argument name before after step ih =>
    refine .of_render rfl rfl rfl rfl ?_
    rw [render_reference_append, render_reference_append, ih.render]
  | element step ih => exact ih.array
  | item before after step ih =>
    refine .of_render rfl rfl rfl rfl ?_
    rw [Node.render, Node.render, renderAll_eq_map, renderAll_eq_map, List.map_append,
      List.map_append, List.map_cons, List.map_cons, ih.render]

/-- Nodes that steps lead between are written alike. -/
theorem Alike.render (alike : n.Alike m) : n.render = m.render := by
  induction alike with
  | rel _ _ step => exact step.similar.render
  | refl _ => rfl
  | symm _ _ _ ih => exact ih.symm
  | trans _ _ _ _ _ first second => exact first.trans second

theorem renderAll_of_alike {ns ms : List Node} (alike : List.Forall₂ Alike ns ms) :
    renderAll ns = renderAll ms := by
  rw [renderAll_eq_map, renderAll_eq_map]
  exact map_eq_map_of_forall₂ (fun _ _ alike => Alike.render alike) alike

end Node

/-! ## Declarations -/

/-- Members that differ in alike types only. -/
inductive Member.Alike : Member → Member → Prop
  | property {name : String} {optional : Bool} {doc : String} {type type' : Node}
      (h : type.Alike type') : Alike (property ⟨name, optional, doc, type⟩)
        (property ⟨name, optional, doc, type'⟩)
  | index {key key' value value' : Node} (hkey : key.Alike key') (hvalue : value.Alike value') :
      Alike (index key value) (index key' value')

/-- Declarations that differ in alike types only. -/
inductive Declaration.Alike : Declaration → Declaration → Prop
  | interface {name : String} {params : List String} {doc : String} {bases bases' : List Node}
      {members members' : List Member} (hbases : List.Forall₂ Node.Alike bases bases')
      (hmembers : List.Forall₂ Member.Alike members members') :
      Alike (interface ⟨name, params, doc, bases, members⟩)
        (interface ⟨name, params, doc, bases', members'⟩)
  | aliased {name : String} {params : List String} {doc : String} {target target' : Node}
      (h : target.Alike target') : Alike (aliased ⟨name, params, doc, target⟩)
        (aliased ⟨name, params, doc, target'⟩)

namespace Declaration

theorem member_of_alike {m m' : Member} (alike : m.Alike m') : member m = member m' := by
  cases alike with
  | property h => rw [member, member, h.render]
  | index hkey hvalue => rw [member, member, hkey.render, hvalue.render]

theorem extending_of_alike {bases bases' : List Node}
    (alike : List.Forall₂ Node.Alike bases bases') : extending bases = extending bases' := by
  cases alike with
  | nil => rfl
  | cons first rest =>
    show " extends " ++ String.intercalate ", " (Node.renderAll _) =
      " extends " ++ String.intercalate ", " (Node.renderAll _)
    rw [Node.renderAll_of_alike (.cons first rest)]

theorem Alike.render {d d' : Declaration} (alike : d.Alike d') : d.render = d'.render := by
  cases alike with
  | @interface name params doc bases bases' members members' hbases hmembers =>
    have lines : (members.map fun m => member m ++ "\n") =
        members'.map fun m => member m ++ "\n" :=
      map_eq_map_of_forall₂ (fun _ _ same => congrArg (· ++ "\n") (member_of_alike same)) hmembers
    rw [Declaration.render, Declaration.render, extending_of_alike hbases, lines]
  | aliased h => rw [Declaration.render, Declaration.render, h.render]

theorem renderAll_of_alike {ds ds' : List Declaration} (alike : List.Forall₂ Alike ds ds') :
    renderAll ds = renderAll ds' := by
  rw [renderAll, renderAll]
  exact congrArg _ (map_eq_map_of_forall₂ (fun _ _ alike => Alike.render alike) alike)

end Declaration

/-! ## The law -/

/-- The text of a union is made of its leaves at any depth of unions: of the texts of those other
than `null`, each where it first occurs, and of one `null` behind them if `null` is among the
leaves; without leaves it is `never`. So grouping members, repeating them later, and moving or
repeating `null` leave the text of a node, and of declarations around it, as it was. -/
theorem Node.render_union :
    (∀ members : List Node, (union members).render =
      if flatAll members = [] then "never"
      else String.intercalate " | " ((texts (flatAll members)).eraseDups ++
        if (flatAll members).any isNull then ["null"] else [])) ∧
    (∀ n m : Node, n.Alike m → n.render = m.render) ∧
    ∀ ds ds' : List Declaration, List.Forall₂ Declaration.Alike ds ds' →
      Declaration.renderAll ds = Declaration.renderAll ds' :=
  ⟨render_union_eq, fun _ _ => Alike.render, fun _ _ => Declaration.renderAll_of_alike⟩

/-- An array of `boolean | string | null`: `null` goes first, `boolean` comes again, the others are
grouped, and `null` comes again. The alias of the array keeps its text. -/
theorem Node.render_union_regrouped :
    let plain := array (union [primitive .boolean, primitive .null, string])
    let grouped := array (union [primitive .null, union [primitive .boolean, string],
      primitive .boolean, primitive .null])
    let declaration := fun target : Node => Declaration.aliased ⟨"Names", [], "", target⟩
    plain.Alike grouped ∧ plain.render = grouped.render ∧
      (union [primitive .boolean, primitive .null, string]).render = "boolean | string | null" ∧
      Declaration.renderAll [declaration plain] = Declaration.renderAll [declaration grouped] := by
  intro plain grouped declaration
  have moved : Recast plain (array (union [primitive .null, primitive .boolean, string])) :=
    .element (.move [primitive .boolean] [string] [] [primitive .boolean, string] rfl)
  have again : Recast (array (union [primitive .null, primitive .boolean, string]))
      (array (union [primitive .null, primitive .boolean, string, primitive .boolean])) :=
    .element (.again [primitive .null, primitive .boolean, string] (primitive .boolean) []
      (.tail _ (.head _)))
  have group : Recast
      (array (union [primitive .null, primitive .boolean, string, primitive .boolean]))
      (array (union [primitive .null, union [primitive .boolean, string], primitive .boolean])) :=
    .element (.group [primitive .null] [primitive .boolean, string] [primitive .boolean])
  have null : Recast
      (array (union [primitive .null, union [primitive .boolean, string], primitive .boolean]))
      grouped :=
    .element (.null [primitive .null, union [primitive .boolean, string], primitive .boolean] []
      (.head _))
  have alike : plain.Alike grouped :=
    .trans _ _ _ (.trans _ _ _ (.rel _ _ moved) (.rel _ _ again))
      (.trans _ _ _ (.rel _ _ group) (.rel _ _ null))
  refine ⟨alike, render_union.2.1 _ _ alike, ?_,
    render_union.2.2 _ _ (.cons (.aliased alike) .nil)⟩
  rw [render_union.1]
  decide

end SchemaDialogue
