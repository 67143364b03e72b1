import SchemaDialogue.Proofs.Slots
import SchemaDialogue.Schema

/-!
# Names in a graph

A reference in a declaration is a name. This file shows that the names lead somewhere: the graph of
a schema starts with its root, no name is declared twice, and each reference stands for a map, for a
type parameter, or for the one declaration of its name (`Schema.graph_closed`).

A name may be taken when its key is reached. The key is then left out, and references to it have the
name of the key that was there first:

* **nodes**: each reference in a declaration is the node of a type expression that the declaration
  shows (`TypeExpr.exists_part_of_node_part`), in one of three forms (`TypeExpr.form_of_node`);
* **names**: each name in the enumeration is kept for one key (`exists_mem_unshadowed`,
  `nodup_unshadowed`);
* **closure**: what a declared key shows is in the enumeration (`BreadthFirst.closed`).
-/

namespace SchemaDialogue

/-- `Part n m`: the node `n` occurs in `m`, at any depth. -/
inductive Node.Part : Node → Node → Prop
  | refl {n} : Part n n
  | arg {n a name args} : a ∈ args → Part n a → Part n (.reference name args)
  | array {n element} : Part n element → Part n (.array element)
  | tuple {n element elements} : element ∈ elements → Part n element → Part n (.tuple elements)
  | union {n m members} : m ∈ members → Part n m → Part n (.union members)

/-- The nodes of a member. -/
def Member.nodes : Member → List Node
  | property p => [p.type]
  | index key value => [key, value]

/-- The nodes of a declaration. -/
def Declaration.nodes : Declaration → List Node
  | interface i => i.bases ++ i.members.flatMap Member.nodes
  | aliased a => [a.target]

namespace TypeExpr

variable {source : Registry} {name : String} {args : List Node} {t u : TypeExpr}

/-! ## References and what they are written for -/

/-- A reference to an undescribed key is declared as `any` in any case. -/
theorem node_degrade (t : TypeExpr) : (t.degrade source).node source = t.node source := by
  have option : ∀ (missing : Node) (o : Option TypeExpr),
      (∀ t, o = some t → (t.degrade source).node source = t.node source) →
      nodeOr source missing (degradeOption source o) = nodeOr source missing o := by
    intro missing o ih
    cases o with
    | none => rfl
    | some t => exact ih t rfl
  have all : ∀ ts : List TypeExpr,
      (∀ t ∈ ts, (t.degrade source).node source = t.node source) →
      nodes source (degradeAll source ts) = nodes source ts := by
    intro ts ih
    rw [nodes_eq_map, nodes_eq_map, degradeAll_eq_map, List.map_map]
    exact List.map_congr_left ih
  induction t using TypeExpr.induction with
  | named key args ih =>
    rw [degrade, Registry.contains]
    cases lookup : source.lookup key with
    | none =>
      rw [Option.isSome_none, if_neg Bool.false_ne_true, node, node, lookup]
    | some d => rw [Option.isSome_some, if_pos rfl, node, node, lookup, all args ih]
  | list element ih => rw [degrade, node, node, option _ element ih]
  | map key value ihk ihv => rw [degrade, node, node, option _ key ihk, option _ value ihv]
  | tuple elements ih => rw [degrade, node, node, all elements ih]
  | variadic element ih => rw [degrade, node, node, ih]
  | union members ih =>
    cases members with
    | nil => rfl
    | cons first others => exact congrArg Node.union (all (first :: others) ih)
  | required inner ih => exact ih
  | notRequired inner ih => exact ih
  | documented doc inner ih => exact ih
  | _ => rfl

/-- Of the key of a map only a number is kept. -/
theorem mapKey_cases (key : Node) : mapKey key = .primitive .number ∨ mapKey key = .string := by
  unfold mapKey
  split
  · rename_i number
    cases key with
    | primitive p =>
      cases p with
      | number => exact .inl rfl
      | _ => cases number
    | _ => cases number
  · exact .inr rfl

/-- A reference in the node of a type expression is the node of one of its parts. -/
theorem exists_part_of_node_part (h : Node.Part (.reference name args) (t.node source)) :
    ∃ u, Part u t ∧ u.node source = .reference name args := by
  induction t using TypeExpr.induction with
  | named key as ih =>
    rw [node] at h
    cases lookup : source.lookup key with
    | none =>
      rw [lookup] at h
      cases h
    | some d =>
      rw [lookup] at h
      cases h with
      | refl => exact ⟨_, .refl, by rw [node, lookup]⟩
      | arg mem h =>
        rw [nodes_eq_map] at mem
        obtain ⟨a, ha, rfl⟩ := List.mem_map.mp mem
        obtain ⟨u, part, same⟩ := ih a ha h
        exact ⟨u, .named ha part, same⟩
  | var v =>
    cases h with
    | refl => exact ⟨_, .refl, rfl⟩
    | arg mem _ => cases mem
  | list element ih =>
    cases h with
    | array h =>
      cases element with
      | none => cases h
      | some element =>
        obtain ⟨u, part, same⟩ := ih element rfl h
        exact ⟨u, .list part, same⟩
  | map key value _ ihv =>
    cases h with
    | refl => exact ⟨_, .refl, rfl⟩
    | arg mem h =>
      have plain : ¬Node.Part (.reference name args) (mapKey (nodeOr source .string key)) := by
        intro h
        rcases mapKey_cases (nodeOr source .string key) with kept | kept <;> rw [kept] at h <;>
          cases h
      rcases List.mem_cons.mp mem with rfl | mem
      · exact absurd h plain
      · obtain rfl := List.mem_singleton.mp mem
        cases value with
        | none => cases h
        | some value =>
          obtain ⟨u, part, same⟩ := ihv value rfl h
          exact ⟨u, .value part, same⟩
  | tuple elements ih =>
    cases h with
    | tuple mem h =>
      rw [nodes_eq_map] at mem
      obtain ⟨t, ht, rfl⟩ := List.mem_map.mp mem
      obtain ⟨u, part, same⟩ := ih t ht h
      exact ⟨u, .tuple ht part, same⟩
  | variadic element ih =>
    cases h with
    | array h =>
      obtain ⟨u, part, same⟩ := ih h
      exact ⟨u, .variadic part, same⟩
  | union members ih =>
    cases members with
    | nil => cases h
    | cons first others =>
      cases h with
      | union mem h =>
        have members : _ ∈ nodes source (first :: others) := mem
        rw [nodes_eq_map] at members
        obtain ⟨t, ht, rfl⟩ := List.mem_map.mp members
        obtain ⟨u, part, same⟩ := ih t ht h
        exact ⟨u, .union ht part, same⟩
  | literal choices =>
    cases choices with
    | nil => cases h
    | cons first others =>
      cases h with
      | union mem h =>
        obtain ⟨choice, _, rfl⟩ := List.mem_map.mp mem
        cases choice <;> cases h
  | required inner ih =>
    obtain ⟨u, part, same⟩ := ih h
    exact ⟨u, .required part, same⟩
  | notRequired inner ih =>
    obtain ⟨u, part, same⟩ := ih h
    exact ⟨u, .notRequired part, same⟩
  | documented doc inner ih =>
    obtain ⟨u, part, same⟩ := ih h
    exact ⟨u, .documented part, same⟩
  | _ => cases h

/-- The type expressions whose nodes are references: maps, type parameters and references to
described keys. -/
theorem form_of_node (h : u.node source = .reference name args) :
    (name = "Record" ∧ ∃ key value, u.unwrapped = .map key value) ∨
    u.unwrapped = .var name ∨
    ∃ key as d, u.unwrapped = .named key as ∧ source.lookup key = some d ∧ d.name = name := by
  induction u using TypeExpr.induction with
  | named key as _ =>
    rw [node] at h
    cases lookup : source.lookup key with
    | none =>
      rw [lookup] at h
      cases h
    | some d =>
      rw [lookup] at h
      cases h
      exact .inr (.inr ⟨key, as, d, rfl, lookup, rfl⟩)
  | var v =>
    cases h
    exact .inr (.inl rfl)
  | map key value _ _ =>
    cases h
    exact .inl ⟨rfl, key, value, rfl⟩
  | union members _ => cases members <;> cases h
  | literal choices => cases choices <;> cases h
  | required inner ih => exact ih h
  | notRequired inner ih => exact ih h
  | documented doc inner ih => exact ih h
  | _ => cases h

end TypeExpr

namespace Registry

variable {source : Registry} {key : TypeKey}

/-- The declaration of `key` shows the type expression `u`, whose node is `n`. -/
def Writes (source : Registry) (key : TypeKey) (u : TypeExpr) (n : Node) : Prop :=
  ∃ t ∈ source.shown key, TypeExpr.Part u (t.degrade source) ∧ u.node source = n

/-- Beside the keys of index signatures, the nodes of a declaration are those of the type
expressions that it shows. -/
theorem mem_nodes_declaration {n : Node} (h : n ∈ (source.declaration key).nodes) :
    n = .string ∨ ∃ t ∈ source.shown key, n = t.node source := by
  unfold declaration at h
  unfold shown
  cases lookup : source.lookup key with
  | none =>
    rw [lookup] at h
    cases h
  | some d =>
    rw [lookup] at h
    cases d with
    | opaqueType name => cases h
    | aliased a =>
      obtain rfl := List.mem_singleton.mp h
      exact .inr ⟨a.target, .head _, rfl⟩
    | record r =>
      rcases List.mem_append.mp h with h | h
      · have bases : n ∈ TypeExpr.nodes source r.bases := h
        rw [TypeExpr.nodes_eq_map] at bases
        obtain ⟨t, mem, rfl⟩ := List.mem_map.mp bases
        exact .inr ⟨t, List.mem_append_left _ (List.mem_append_left _ mem), rfl⟩
      · obtain ⟨member, mem, h⟩ := List.mem_flatMap.mp h
        rcases List.mem_append.mp mem with mem | mem
        · obtain ⟨f, own, rfl⟩ := List.mem_map.mp mem
          obtain rfl := List.mem_singleton.mp h
          refine .inr ⟨f.type, ?_, FieldDef.property_type f⟩
          exact List.mem_append_left _ (List.mem_append_right _ (List.mem_map_of_mem own))
        · cases extra : r.extra with
          | none =>
            rw [extra] at mem
            cases mem
          | some t =>
            rw [extra] at mem
            obtain rfl := List.mem_singleton.mp mem
            rcases List.mem_cons.mp h with rfl | h
            · exact .inl rfl
            · obtain rfl := List.mem_singleton.mp h
              exact .inr ⟨t, List.mem_append_right _ (by rw [extra]; exact .head _), rfl⟩

/-- Each reference in a declaration is written for a type expression that the declaration shows. -/
theorem exists_writes {n : Node} {name : String} {args : List Node}
    (mem : n ∈ (source.declaration key).nodes) (part : Node.Part (.reference name args) n) :
    ∃ u, source.Writes key u (.reference name args) := by
  rcases mem_nodes_declaration mem with rfl | ⟨t, shown, rfl⟩
  · cases part
  · rw [← TypeExpr.node_degrade] at part
    obtain ⟨u, inside, same⟩ := TypeExpr.exists_part_of_node_part part
    exact ⟨u, t, shown, inside, same⟩

end Registry

namespace Graph

variable {source : Registry} {order : List TypeKey} {key : TypeKey}

/-! ## Names that are kept -/

/-- The induction that goes with leaving out the keys of a name that is taken. -/
theorem unshadowed_induction (source : Registry) {motive : List TypeKey → Prop} (nil : motive [])
    (cons : ∀ key rest, motive (rest.filter fun k =>
      (source.declaration k).name ≠ (source.declaration key).name) → motive (key :: rest))
    (order : List TypeKey) : motive order := by
  induction hlen : order.length using Nat.strongRecOn generalizing order with
  | ind n ih =>
    cases order with
    | nil => exact nil
    | cons key rest =>
      subst hlen
      exact cons key rest (ih _ (Nat.lt_succ_of_le (List.length_filter_le _ _)) _ rfl)

theorem mem_of_mem_unshadowed (mem : key ∈ unshadowed source order) : key ∈ order := by
  induction order using unshadowed_induction source with
  | nil => exact mem
  | cons first rest ih =>
    rw [unshadowed_cons] at mem
    rcases List.mem_cons.mp mem with rfl | mem
    · exact .head _
    · exact .tail _ (List.mem_filter.mp (ih mem)).1

/-- A name is kept for one key. -/
theorem nodup_unshadowed (source : Registry) (order : List TypeKey) :
    ((unshadowed source order).map fun k => (source.declaration k).name).Nodup := by
  induction order using unshadowed_induction source with
  | nil => exact List.nodup_nil
  | cons first rest ih =>
    rw [unshadowed_cons, List.map_cons, List.nodup_cons]
    refine ⟨fun again => ?_, ih⟩
    obtain ⟨k, mem, same⟩ := List.mem_map.mp again
    have other := (List.mem_filter.mp (mem_of_mem_unshadowed mem)).2
    exact of_decide_eq_true other same

/-- Each name is kept. -/
theorem exists_mem_unshadowed (mem : key ∈ order) :
    ∃ k ∈ unshadowed source order,
      (source.declaration k).name = (source.declaration key).name := by
  induction order using unshadowed_induction source with
  | nil => cases mem
  | cons first rest ih =>
    rw [unshadowed_cons]
    by_cases same : (source.declaration key).name = (source.declaration first).name
    · exact ⟨first, .head _, same.symm⟩
    · have later : key ∈ rest := by
        rcases List.mem_cons.mp mem with rfl | mem
        · exact absurd rfl same
        · exact mem
      obtain ⟨k, kept, name⟩ := ih (List.mem_filter.mpr ⟨later, decide_eq_true same⟩)
      exact ⟨k, .tail _ kept, name⟩

/-- The one declaration of the name of a key that is reached. -/
theorem existsUnique_declaration (mem : key ∈ order) :
    ∃! p, p ∈ (unshadowed source order).map (fun k => (k, source.declaration k)) ∧
      p.2.name = (source.declaration key).name := by
  obtain ⟨k, kept, name⟩ := exists_mem_unshadowed mem
  refine ⟨(k, source.declaration k), ⟨List.mem_map_of_mem kept, name⟩, ?_⟩
  rintro p ⟨declared, same⟩
  obtain ⟨k', kept', rfl⟩ := List.mem_map.mp declared
  have one : k' = k :=
    List.inj_on_of_nodup_map (nodup_unshadowed source order) kept' kept (same.trans name.symm)
  rw [one]

end Graph

namespace Schema

theorem name_root (s : Schema) : (s.source.declaration s.root).name = s.typeName := by
  unfold typeName Registry.declaration
  cases s.source.lookup s.root with
  | none => rfl
  | some d => cases d <;> rfl

/-- The graph starts with the declaration of the root, its names are distinct, and each reference in
a declaration is written for a map, for a type parameter, or has the name of just one declaration.
It is what the walk with slots builds, and that leaves no slot reserved. -/
theorem graph_closed (s : Schema) :
    (∃ declaration rest, s.graph.declarations = (s.root, declaration) :: rest ∧
      declaration.name = s.typeName) ∧
    (s.graph.list.map Declaration.name).Nodup ∧
    (∀ p ∈ s.graph.declarations, ∀ n ∈ p.2.nodes, ∀ name args,
      Node.Part (.reference name args) n →
        (∃ u, s.source.Writes p.1 u (.reference name args)) ∧
        ∀ u, s.source.Writes p.1 u (.reference name args) →
          (name = "Record" ∧ ∃ key value, u.unwrapped = .map key value) ∨
          u.unwrapped = .var name ∨
          ∃! q, q ∈ s.graph.declarations ∧ q.2.name = name) ∧
    (Graph.Slots.run s.source [s.root] {}).graph = s.graph ∧
    ∀ p ∈ (Graph.Slots.run s.source [s.root] {}).slots, p.2 ≠ .reserved := by
  obtain ⟨order, layers, run⟩ := Graph.run_root s.source s.root
  have declarations : s.graph.declarations = (Graph.unshadowed s.source order).map
      fun key => (key, s.source.declaration key) := Graph.declarations_of_run run
  have starts : ∃ rest, order = s.root :: rest := by
    cases layers with
    | layer _ _ => exact ⟨_, rfl⟩
  refine ⟨?_, ?_, ?_, Graph.Slots.graph_run s.source s.root⟩
  · obtain ⟨rest, rfl⟩ := starts
    rw [declarations, Graph.unshadowed_cons]
    exact ⟨_, _, rfl, s.name_root⟩
  · rw [Graph.list, declarations, List.map_map, List.map_map]
    exact Graph.nodup_unshadowed s.source order
  · intro p declared n mem name args part
    rw [declarations] at declared
    obtain ⟨key, kept, rfl⟩ := List.mem_map.mp declared
    refine ⟨Registry.exists_writes mem part, ?_⟩
    rintro u ⟨t, shown, inside, same⟩
    rcases TypeExpr.form_of_node same with map | var | ⟨k, as, d, form, lookup, rfl⟩
    · exact .inl map
    · exact .inr (.inl var)
    · -- the key is mentioned, so it is reached, and its name is kept
      have reference : TypeExpr.Part (.named k as) (t.degrade s.source) :=
        form ▸ (TypeExpr.Part.unwrapped u).trans inside
      have mentioned : k ∈ s.source.successors key :=
        List.mem_flatMap.mpr ⟨t, shown, TypeExpr.mem_mentions.mpr ⟨as, reference⟩⟩
      have reached : k ∈ order := layers.closed (Graph.mem_of_mem_unshadowed kept) mentioned
      rw [declarations, ← Registry.name_declaration lookup]
      exact .inr (.inr (Graph.existsUnique_declaration reached))

end Schema

end SchemaDialogue
