import SchemaDialogue.Interface.Render
import SchemaDialogue.Proofs.Naming

/-!
# Normal forms of declarations

Some type nodes are written alike: nested unions are written flat, a leaf whose text has been
written is left out, `null` goes last, a union of one member is written as that member unless it
stands directly under an array, and a union without members is written as one of `never`. The normal
form of a node (`Node.normal`) has made these choices, and that of a declaration has no
documentation either.

Normalizing does not change the text of a node (`Node.render_normal`), nor that of a declaration
without documentation (`Declaration.render_normal`).
-/

namespace SchemaDialogue

/-! ## Without repetitions -/

theorem distinct_filter (p : String → Bool) (l : List String) :
    distinct (l.filter p) = (distinct l).filter p := by
  induction l with
  | nil => rfl
  | cons a rest ih =>
    rw [distinct]
    by_cases h : p a
    · rw [List.filter_cons_of_pos h, List.filter_cons_of_pos h, distinct, ih, List.filter_filter,
        List.filter_filter]
      simp only [Bool.and_comm]
    · -- `a` is dropped on both sides, so that nothing is left to drop on its account
      rw [List.filter_cons_of_neg h, List.filter_cons_of_neg h, ih, List.filter_filter]
      refine List.filter_congr fun b _ => ?_
      by_cases same : b = a
      · rw [same, Bool.eq_false_iff.mpr h, Bool.false_and]
      · rw [decide_eq_true same, Bool.and_true]

theorem distinct_distinct (l : List String) : distinct (distinct l) = distinct l := by
  induction l with
  | nil => rfl
  | cons a rest ih =>
    rw [distinct, distinct, distinct_filter, ih, List.filter_filter]
    simp only [Bool.and_self]

/-- The entries that are the first under their keys. -/
def Entries.firsts {α : Type} : Entries α → Entries α
  | [] => []
  | entry :: rest => entry :: (firsts rest).filter (·.1 ≠ entry.1)

theorem Entries.keys_firsts {α : Type} (entries : Entries α) :
    entries.firsts.keys = distinct entries.keys := by
  induction entries with
  | nil => rfl
  | cons entry rest ih =>
    show entry.1 :: keys ((firsts rest).filter (·.1 ≠ entry.1)) =
      entry.1 :: (distinct (keys rest)).filter (· ≠ entry.1)
    rw [← ih, keys, keys, List.filter_map]
    rfl

theorem Entries.mem_of_mem_firsts {α : Type} {entries : Entries α} {entry : String × α}
    (h : entry ∈ entries.firsts) : entry ∈ entries := by
  induction entries with
  | nil => exact h
  | cons first rest ih =>
    rcases List.mem_cons.mp h with rfl | h
    · exact .head _
    · exact .tail _ (ih (List.mem_of_mem_filter h))

/-! ## Nodes -/

namespace Node

/-- A union; of a single member, that member. -/
def ofMembers : List Node → Node
  | [n] => n
  | members => union members

/-- The members of a flat union under their texts: the first leaf of each text and then `null`, or
else `never`. -/
def flatUnion (leaves : Entries Node) (nullable : Bool) : Entries Node :=
  match leaves.firsts ++ (if nullable then [("null", primitive .null)] else []) with
  | [] => [("never", never)]
  | members => members

mutual

/-- The normal form of a node. -/
def normal : Node → Node
  | primitive p => primitive p
  | reference name args => reference name (normalAll args)
  | array (union members) =>
    array (union ((flatUnion (leaves members) (someNull members)).map (·.2)))
  | array element => array element.normal
  | tuple elements => tuple (normalAll elements)
  | union members => ofMembers ((flatUnion (leaves members) (someNull members)).map (·.2))
  | literal l => literal l

/-- The normal forms of nodes. -/
def normalAll : List Node → List Node
  | [] => []
  | n :: rest => n.normal :: normalAll rest

/-- The normal forms of the leaves of union members, other than `null`, under their texts. -/
def leaves : List Node → Entries Node
  | [] => []
  | union inner :: rest => leaves inner ++ leaves rest
  | primitive .null :: rest => leaves rest
  | n :: rest => (n.render, n.normal) :: leaves rest

end

/-- Is this a union? -/
def isUnion : Node → Bool
  | union _ => true
  | _ => false

/-- The normal forms that stand for a node among the members of a union, under their texts. -/
def own : Node → Entries Node
  | union members => leaves members
  | n => [(n.render, n.normal)]

/-- Induction over nodes; in lists it holds of each that is there. -/
theorem induction {P : Node → Prop} (primitive : ∀ p, P (.primitive p))
    (reference : ∀ name args, (∀ a ∈ args, P a) → P (.reference name args))
    (array : ∀ element, P element → P (.array element))
    (tuple : ∀ elements, (∀ e ∈ elements, P e) → P (.tuple elements))
    (union : ∀ members, (∀ m ∈ members, P m) → P (.union members))
    (literal : ∀ l, P (.literal l)) (n : Node) : P n := by
  apply Node.rec (motive_1 := P) (motive_2 := fun ns => ∀ n ∈ ns, P n) primitive
    (fun _ _ ih => reference _ _ ih) array (fun _ ih => tuple _ ih) (fun _ ih => union _ ih) literal
  · exact fun n hn => by cases hn
  · intro head tail ihHead ihTail n hn
    rcases List.mem_cons.mp hn with rfl | hn
    · exact ihHead
    · exact ihTail n hn

theorem normalAll_eq_map (ns : List Node) : normalAll ns = ns.map normal := by
  induction ns with
  | nil => rfl
  | cons n rest ih => rw [normalAll, ih, List.map_cons]

theorem renderAll_eq_map (ns : List Node) : renderAll ns = ns.map render := by
  induction ns with
  | nil => rfl
  | cons n rest ih => rw [renderAll, ih, List.map_cons]

variable {n : Node} {members : List Node}

theorem own_of_not_union (h : n.isUnion = false) : n.own = [(n.render, n.normal)] := by
  cases n with
  | union _ => cases h
  | _ => rfl

theorem normal_array (h : n.isUnion = false) : (array n).normal = array n.normal := by
  cases n with
  | union _ => cases h
  | _ => rfl

theorem render_array (h : n.isUnion = false) : (array n).render = n.render ++ "[]" := by
  cases n with
  | union _ => cases h
  | _ => rfl

theorem isUnion_normal (h : n.isUnion = false) : n.normal.isUnion = false := by
  cases n with
  | union _ => cases h
  | array element =>
    cases element <;> rfl
  | _ => rfl

theorem isNull_normal (h : n.isUnion = false) : n.normal.isNull = n.isNull := by
  cases n with
  | union _ => cases h
  | array element => cases element <;> rfl
  | _ => rfl

theorem leaves_cons (n : Node) (rest : List Node) :
    leaves (n :: rest) = (if n.isNull then [] else n.own) ++ leaves rest := by
  cases n with
  | primitive p => cases p <;> rfl
  | _ => rfl

theorem mem_leaves {e : String × Node} {ns : List Node} (h : e ∈ leaves ns) :
    ∃ n ∈ ns, n.isNull = false ∧ e ∈ n.own := by
  induction ns with
  | nil => cases h
  | cons n rest ih =>
    rw [leaves_cons] at h
    rcases List.mem_append.mp h with h | h
    · by_cases null : n.isNull
      · rw [if_pos null] at h
        cases h
      · rw [if_neg null] at h
        exact ⟨n, .head _, Bool.eq_false_iff.mpr null, h⟩
    · obtain ⟨n, hn, found⟩ := ih h
      exact ⟨n, .tail _ hn, found⟩

/-- A leaf of a union is no union itself, and not `null`. -/
theorem leaf_of_mem_leaves {e : String × Node} {ns : List Node} (h : e ∈ leaves ns) :
    e.2.isUnion = false ∧ e.2.isNull = false := by
  have own : ∀ n : Node, n.isNull = false → ∀ e ∈ n.own,
      e.2.isUnion = false ∧ e.2.isNull = false := by
    intro n
    induction n using Node.induction with
    | union members ih =>
      intro _ e he
      obtain ⟨m, hm, proper, he⟩ := mem_leaves he
      exact ih m hm proper e he
    | _ =>
      intro proper e he
      cases List.mem_singleton.mp he
      exact ⟨isUnion_normal rfl, (isNull_normal rfl).trans proper⟩
  obtain ⟨n, _, proper, he⟩ := mem_leaves h
  exact own n proper e he

/-- The leaves are under the texts that are written for them. -/
theorem keys_leaves : ∀ ns : List Node, (leaves ns).keys = leafTexts ns
  | [] => rfl
  | union inner :: rest => by
    rw [leaves, leafTexts, Entries.keys, List.map_append, ← Entries.keys, ← Entries.keys,
      keys_leaves inner, keys_leaves rest]
  | primitive p :: rest => by
    have later := keys_leaves rest
    cases p with
    | null => exact later
    | _ => exact congrArg (List.cons _) later
  | reference _ _ :: rest | array _ :: rest | tuple _ :: rest | literal _ :: rest =>
    congrArg (List.cons _) (keys_leaves rest)

/-! ### The text of a normal form -/

/-- A union is written as the texts of its flat members. -/
theorem unionText_keys (leaves : Entries Node) (nullable : Bool) :
    unionText leaves.keys nullable =
      String.intercalate " | " (flatUnion leaves nullable).keys := by
  have parts : distinct leaves.keys ++ (if nullable then ["null"] else []) =
      (leaves.firsts ++ (if nullable then [("null", primitive .null)] else [])).keys := by
    rw [← Entries.keys_firsts, Entries.keys, Entries.keys, List.map_append]
    cases nullable <;> rfl
  rw [unionText, flatUnion, parts]
  cases leaves.firsts ++ (if nullable then [("null", primitive .null)] else []) <;> rfl

theorem flatUnion_ne_nil (leaves : Entries Node) (nullable : Bool) :
    flatUnion leaves nullable ≠ [] := by
  rw [flatUnion]
  split
  · exact List.cons_ne_nil _ _
  · assumption

/-- What holds of the leaves, `null` and `never` holds of all members of a flat union. -/
theorem forall_mem_flatUnion {P : String × Node → Prop} {leaves : Entries Node}
    (each : ∀ e ∈ leaves, P e) (null : P ("null", primitive .null)) (never : P ("never", never))
    (nullable : Bool) : ∀ e ∈ flatUnion leaves nullable, P e := by
  have members : ∀ e ∈ leaves.firsts ++ (if nullable then [("null", primitive .null)] else []),
      P e := by
    refine List.forall_mem_append.mpr ⟨fun e he => each e (Entries.mem_of_mem_firsts he), ?_⟩
    cases nullable with
    | false => exact fun _ h => nomatch h
    | true => exact List.forall_mem_singleton.mpr null
  rw [flatUnion]
  split
  · exact List.forall_mem_singleton.mpr never
  · exact members

theorem leafTexts_append {ns rest : List Node}
    (leaf : ∀ n ∈ ns, n.isUnion = false ∧ n.isNull = false) :
    leafTexts (ns ++ rest) = ns.map render ++ leafTexts rest := by
  induction ns with
  | nil => rfl
  | cons n ns ih =>
    obtain ⟨⟨notUnion, notNull⟩, others⟩ := List.forall_mem_cons.mp leaf
    rw [List.map_cons, List.cons_append, List.cons_append, ← ih others]
    cases n with
    | union _ => cases notUnion
    | primitive p =>
      cases p with
      | null => cases notNull
      | _ => rfl
    | _ => rfl

theorem someNull_append {ns rest : List Node}
    (leaf : ∀ n ∈ ns, n.isUnion = false ∧ n.isNull = false) :
    someNull (ns ++ rest) = someNull rest := by
  induction ns with
  | nil => rfl
  | cons n ns ih =>
    obtain ⟨⟨notUnion, notNull⟩, others⟩ := List.forall_mem_cons.mp leaf
    rw [List.cons_append, ← ih others]
    cases n with
    | union _ => cases notUnion
    | primitive p =>
      cases p with
      | null => cases notNull
      | _ => rfl
    | _ => rfl

/-- A flat union has the first leaves and `null` as its members, if there are any. -/
theorem flatUnion_cases (leaves : Entries Node) (nullable : Bool) :
    (leaves.firsts = [] ∧ nullable = false ∧ flatUnion leaves nullable = [("never", never)]) ∨
      flatUnion leaves nullable =
        leaves.firsts ++ (if nullable then [("null", primitive .null)] else []) := by
  cases members : leaves.firsts ++ (if nullable then [("null", primitive .null)] else []) with
  | nil =>
    obtain ⟨none, notNull⟩ := List.append_eq_nil_iff.mp members
    refine .inl ⟨none, ?_, by rw [flatUnion, members]⟩
    cases nullable with
    | false => rfl
    | true => cases notNull
  | cons _ _ => exact .inr (by rw [flatUnion, members])

/-- A flat union has nothing to be left out. -/
theorem unionText_flatUnion {leaves : Entries Node}
    (leaf : ∀ e ∈ leaves, e.2.isUnion = false ∧ e.2.isNull = false)
    (same : ∀ e ∈ leaves, e.2.render = e.1) (nullable : Bool) :
    let members := (flatUnion leaves nullable).map (·.2)
    unionText (leafTexts members) (someNull members) = unionText leaves.keys nullable := by
  intro members
  have first : ∀ n ∈ leaves.firsts.map (·.2), n.isUnion = false ∧ n.isNull = false :=
    List.forall_mem_map.mpr fun e he => leaf e (Entries.mem_of_mem_firsts he)
  have texts : (leaves.firsts.map (·.2)).map render = distinct leaves.keys := by
    rw [← Entries.keys_firsts, List.map_map]
    exact List.map_congr_left fun e he => same e (Entries.mem_of_mem_firsts he)
  rcases flatUnion_cases leaves nullable with ⟨none, rfl, single⟩ | several
  · have nothing : unionText leaves.keys false = "never" := by
      rw [unionText, ← texts, none]
      rfl
    rw [nothing, show members = [never] from congrArg (List.map (·.2)) single]
    rfl
  · have hmembers : members = leaves.firsts.map (·.2) ++
        (if nullable then [primitive .null] else []) := by
      show (flatUnion leaves nullable).map (·.2) = _
      rw [several, List.map_append]
      cases nullable <;> rfl
    have again : unionText (distinct leaves.keys ++ []) nullable =
        unionText leaves.keys nullable := by
      rw [List.append_nil, unionText, distinct_distinct, unionText]
    rw [hmembers, leafTexts_append first, someNull_append first, texts, ← again]
    cases nullable <;> rfl

theorem render_ofMembers_flatUnion {leaves : Entries Node}
    (leaf : ∀ e ∈ leaves, e.2.isUnion = false ∧ e.2.isNull = false)
    (same : ∀ e ∈ leaves, e.2.render = e.1) (nullable : Bool) :
    (ofMembers ((flatUnion leaves nullable).map (·.2))).render =
      unionText leaves.keys nullable := by
  have written := unionText_flatUnion leaf same nullable
  have texts := unionText_keys leaves nullable
  have each := forall_mem_flatUnion same rfl rfl nullable
  cases members : flatUnion leaves nullable with
  | nil => rw [members] at written; exact written
  | cons e rest =>
    cases rest with
    | nil =>
      rw [members] at texts each
      exact (each e (.head _)).trans texts.symm
    | cons _ _ => rw [members] at written; exact written

/-- The normal form of a node has the text of the node. -/
theorem render_normal (n : Node) : n.normal.render = n.render := by
  have all : ∀ ns : List Node, (∀ n ∈ ns, n.normal.render = n.render) →
      renderAll (normalAll ns) = renderAll ns := by
    intro ns each
    rw [normalAll_eq_map, renderAll_eq_map, renderAll_eq_map, List.map_map]
    exact List.map_congr_left each
  -- in a union around the node its leaves are written, so these have to keep their texts as well
  have both : n.normal.render = n.render ∧ ∀ e ∈ n.own, e.2.render = e.1 := by
    induction n using Node.induction with
    | union members ih =>
      have same : ∀ e ∈ leaves members, e.2.render = e.1 := by
        intro e he
        obtain ⟨m, hm, _, he⟩ := mem_leaves he
        exact (ih m hm).2 e he
      refine ⟨?_, same⟩
      rw [normal, render_ofMembers_flatUnion (fun _ => leaf_of_mem_leaves) same, keys_leaves,
        render]
    | primitive p => exact ⟨rfl, List.forall_mem_singleton.mpr rfl⟩
    | literal l => exact ⟨rfl, List.forall_mem_singleton.mpr rfl⟩
    | reference name args ih =>
      have text : (reference name args).normal.render = (reference name args).render := by
        have parts := all args fun a ha => (ih a ha).1
        cases args with
        | nil => rfl
        | cons _ _ =>
          rw [normalAll] at parts
          rw [normal, normalAll, render, render, parts]
      exact ⟨text, List.forall_mem_singleton.mpr text⟩
    | tuple elements ih =>
      have text : (tuple elements).normal.render = (tuple elements).render := by
        rw [normal, render, render, all elements fun e he => (ih e he).1]
      exact ⟨text, List.forall_mem_singleton.mpr text⟩
    | array element ih =>
      have text : (array element).normal.render = (array element).render := by
        by_cases isUnion : element.isUnion
        · cases element with
          | union members =>
            rw [normal, render, unionText_flatUnion (fun _ => leaf_of_mem_leaves) ih.2,
              keys_leaves, render]
          | _ => cases isUnion
        · have notUnion := Bool.eq_false_iff.mpr isUnion
          rw [normal_array notUnion, render_array (isUnion_normal notUnion), ih.1,
            render_array notUnion]
      exact ⟨text, List.forall_mem_singleton.mpr text⟩
  exact both.1

end Node

/-! ## Declarations -/

namespace Member

/-- The normal form of a member. -/
def normal : Member → Member
  | property p => property { p with doc := "", type := p.type.normal }
  | index key value => index key.normal value.normal

/-- The documentation of a member. -/
def docs : Member → List String
  | property p => [p.doc]
  | index _ _ => []

end Member

namespace Declaration

/-- The normal form of a declaration. -/
def normal : Declaration → Declaration
  | interface i =>
    interface
      { i with
        doc := ""
        bases := i.bases.map Node.normal
        members := i.members.map Member.normal }
  | aliased a => aliased { a with doc := "", target := a.target.normal }

/-- The documentation in a declaration. -/
def docs : Declaration → List String
  | interface i => i.doc :: i.members.flatMap Member.docs
  | aliased a => [a.doc]

/-- Is all documentation blank? -/
def IsUndocumented (d : Declaration) : Prop := ∀ doc ∈ d.docs, Text.trim doc.toList = []

theorem comment_of_blank {doc : String} (blank : Text.trim doc.toList = []) (indentation : String) :
    comment doc indentation = "" := by
  rw [comment, blank]

theorem extending_normal (bases : List Node) :
    extending (bases.map Node.normal) = extending bases := by
  have all : Node.renderAll (bases.map Node.normal) = Node.renderAll bases := by
    rw [Node.renderAll_eq_map, Node.renderAll_eq_map, List.map_map]
    exact List.map_congr_left fun n _ => n.render_normal
  cases bases with
  | nil => rfl
  | cons base rest =>
    rw [List.map_cons] at all ⊢
    rw [extending, all, extending] <;> exact nofun

theorem member_normal {m : Member} (blank : ∀ doc ∈ m.docs, Text.trim doc.toList = []) :
    member m.normal = member m := by
  cases m with
  | property p =>
    rw [Member.normal, member, member, comment_of_blank (blank p.doc (.head _)),
      comment_of_blank rfl, p.type.render_normal]
  | index key value => rw [Member.normal, member, member, key.render_normal, value.render_normal]

/-- The normal form of an undocumented declaration has its text. -/
theorem render_normal {d : Declaration} (undocumented : d.IsUndocumented) :
    d.normal.render = d.render := by
  cases d with
  | interface i =>
    have members : (i.members.map Member.normal).map (fun m => member m ++ "\n") =
        i.members.map fun m => member m ++ "\n" := by
      rw [List.map_map]
      refine List.map_congr_left fun m hm => ?_
      have blank : ∀ doc ∈ m.docs, Text.trim doc.toList = [] := fun doc hdoc =>
        undocumented doc (.tail _ (List.mem_flatMap.mpr ⟨m, hm, hdoc⟩))
      exact congrArg (· ++ "\n") (member_normal blank)
    rw [normal, render, render, comment_of_blank (undocumented i.doc (.head _)),
      comment_of_blank rfl, extending_normal, members]
  | aliased a =>
    rw [normal, render, render, comment_of_blank (undocumented a.doc (.head _)),
      comment_of_blank rfl, a.target.render_normal]

end Declaration

end SchemaDialogue
