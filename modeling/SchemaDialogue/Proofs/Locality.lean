import SchemaDialogue.Proofs.ErrorFree

/-!
# Definitions that are never looked up

What is shown of a type only depends on the definitions that are reached from it. Two registries are
compared that agree on a set of keys which the definitions under these keys do not leave:

* **closed sets**: `TypeExpr.Within` says that all keys a type expression mentions are in the set,
  and `Registry.Agree` that both registries agree on the set and that it is closed;
* **readings**: a type expression, a definition and a search for inherited records read the same
  from both registries (`Agree.node_eq`, `Agree.ancestryFrom_eq`, `Agree.declaration_eq` and their
  siblings);
* **walk**: so does a walk, step by step (`Agree.run_eq`), and hence the graph of a root
  (`Agree.build_eq`).
-/

namespace SchemaDialogue

namespace TypeExpr

variable {K : TypeKey → Prop}

/-- All keys that a type expression mentions are of the set. -/
def Within (K : TypeKey → Prop) (t : TypeExpr) : Prop := ∀ key ∈ t.mentions, K key

@[simp] theorem within_named {key : TypeKey} {args : List TypeExpr} :
    (named key args).Within K ↔ K key ∧ ∀ a ∈ args, a.Within K := by
  simp only [Within, mentions, mentionsAll_eq_flatMap, List.forall_mem_cons, List.mem_flatMap,
    forall_exists_index, and_imp]
  exact and_congr_right fun _ => ⟨fun h a mem key inner => h key a mem inner,
    fun h key a mem inner => h a mem key inner⟩

@[simp] theorem within_list {element : Option TypeExpr} :
    (list element).Within K ↔ ∀ t, element = some t → t.Within K := by
  cases element <;> simp [Within, mentions, mentionsOption]

@[simp] theorem within_map {key value : Option TypeExpr} :
    (map key value).Within K ↔
      (∀ t, key = some t → t.Within K) ∧ ∀ t, value = some t → t.Within K := by
  cases key <;> cases value <;> simp [Within, mentions, mentionsOption, or_imp, forall_and]

@[simp] theorem within_tuple {elements : List TypeExpr} :
    (tuple elements).Within K ↔ ∀ t ∈ elements, t.Within K := by
  simp only [Within, mentions, mentionsAll_eq_flatMap, List.mem_flatMap, forall_exists_index,
    and_imp]
  exact ⟨fun h t mem key inner => h key t mem inner, fun h key t mem inner => h t mem key inner⟩

@[simp] theorem within_variadic {element : TypeExpr} :
    (variadic element).Within K ↔ element.Within K := Iff.rfl

@[simp] theorem within_union {members : List TypeExpr} :
    (union members).Within K ↔ ∀ t ∈ members, t.Within K := within_tuple

@[simp] theorem within_required {inner : TypeExpr} :
    (required inner).Within K ↔ inner.Within K := Iff.rfl

@[simp] theorem within_notRequired {inner : TypeExpr} :
    (notRequired inner).Within K ↔ inner.Within K := Iff.rfl

@[simp] theorem within_documented {doc : String} {inner : TypeExpr} :
    (documented doc inner).Within K ↔ inner.Within K := Iff.rfl

theorem Within.unwrapped {t : TypeExpr} (h : t.Within K) : t.unwrapped.Within K :=
  fun key mem => h key (mem_mentions_of_part (.unwrapped t) mem)

end TypeExpr

/-- Two registries agree on a set of keys, which is closed: the definitions under these keys mention
no others. -/
structure Registry.Agree (source other : Registry) (K : TypeKey → Prop) : Prop where
  lookup : ∀ key, K key → source.lookup key = other.lookup key
  closed : ∀ key d, K key → source.lookup key = some d → ∀ t ∈ d.types, t.Within K

namespace Registry.Agree

open TypeExpr

variable {source other : Registry} {K : TypeKey → Prop} {t : TypeExpr} {key : TypeKey}

theorem contains (agree : source.Agree other K) (known : K key) :
    source.contains key = other.contains key := by
  rw [Registry.contains, Registry.contains, agree.lookup key known]

theorem mem_keys (agree : source.Agree other K) (known : K key) :
    key ∈ source.keys ↔ key ∈ other.keys := by
  have same : key ∉ source.keys ↔ key ∉ other.keys := by
    rw [Registry.keys, Registry.keys, ← Entries.find?_eq_none, ← Entries.find?_eq_none]
    exact Iff.of_eq (congrArg (· = none) (agree.lookup key known))
  exact not_iff_not.mp same

/-! ## Type expressions -/

theorem node_eq (agree : source.Agree other K) (within : t.Within K) :
    t.node source = t.node other := by
  have option : ∀ (missing : Node) (o : Option TypeExpr),
      (∀ t, o = some t → t.node source = t.node other) →
      nodeOr source missing o = nodeOr other missing o := by
    intro missing o ih
    cases o with
    | none => rfl
    | some t => exact ih t rfl
  have all : ∀ ts : List TypeExpr, (∀ t ∈ ts, t.node source = t.node other) →
      nodes source ts = nodes other ts := by
    intro ts ih
    rw [nodes_eq_map, nodes_eq_map]
    exact List.map_congr_left ih
  induction t using TypeExpr.induction with
  | named key args ih =>
    obtain ⟨known, args_within⟩ := within_named.mp within
    rw [node, node, agree.lookup key known]
    cases other.lookup key with
    | none => rfl
    | some d =>
      dsimp only
      rw [all args fun a mem => ih a mem (args_within a mem)]
  | list element ih =>
    have inner := within_list.mp within
    rw [node, node, option _ element fun t some => ih t some (inner t some)]
  | map key value ihk ihv =>
    obtain ⟨inner_key, inner_value⟩ := within_map.mp within
    rw [node, node, option _ key fun t some => ihk t some (inner_key t some),
      option _ value fun t some => ihv t some (inner_value t some)]
  | tuple elements ih =>
    rw [node, node, all elements fun t mem => ih t mem (within_tuple.mp within t mem)]
  | variadic element ih => rw [node, node, ih within]
  | union members ih =>
    cases members with
    | nil => rfl
    | cons first others =>
      have inner := within_union.mp within
      rw [node, node, ih first (.head _) (inner first (.head _)),
        all others fun t mem => ih t (.tail _ mem) (inner t (.tail _ mem))]
  | literal choices => cases choices <;> rfl
  | required inner ih => rw [node, node, ih within]
  | notRequired inner ih => rw [node, node, ih within]
  | documented doc inner ih => rw [node, node, ih within]
  | _ => rfl

theorem nodes_eq (agree : source.Agree other K) {ts : List TypeExpr}
    (within : ∀ t ∈ ts, t.Within K) : nodes source ts = nodes other ts := by
  rw [nodes_eq_map, nodes_eq_map]
  exact List.map_congr_left fun t mem => agree.node_eq (within t mem)

theorem errors_eq (agree : source.Agree other K) (within : t.Within K) :
    t.errors source = t.errors other := by
  have option : ∀ o : Option TypeExpr, (∀ t, o = some t → t.errors source = t.errors other) →
      errorsOption source o = errorsOption other o := by
    intro o ih
    cases o with
    | none => rfl
    | some t => exact ih t rfl
  have all : ∀ ts : List TypeExpr, (∀ t ∈ ts, t.errors source = t.errors other) →
      errorsAll source ts = errorsAll other ts := by
    intro ts ih
    rw [errorsAll_eq_flatMap, errorsAll_eq_flatMap]
    exact List.flatMap_congr ih
  induction t using TypeExpr.induction with
  | named key args ih =>
    obtain ⟨known, args_within⟩ := within_named.mp within
    rw [TypeExpr.errors, TypeExpr.errors, agree.lookup key known]
    cases other.lookup key with
    | none => rfl
    | some d =>
      dsimp only
      rw [all args fun a mem => ih a mem (args_within a mem)]
  | list element ih =>
    have inner := within_list.mp within
    exact option element fun t some => ih t some (inner t some)
  | map key value ihk ihv =>
    obtain ⟨inner_key, inner_value⟩ := within_map.mp within
    rw [TypeExpr.errors, TypeExpr.errors, option key fun t some => ihk t some (inner_key t some),
      option value fun t some => ihv t some (inner_value t some)]
  | tuple elements ih =>
    exact all elements fun t mem => ih t mem (within_tuple.mp within t mem)
  | variadic element ih => exact ih within
  | union members ih =>
    cases members with
    | nil => rfl
    | cons first others =>
      have inner := within_union.mp within
      rw [TypeExpr.errors, TypeExpr.errors, ih first (.head _) (inner first (.head _)),
        all others fun t mem => ih t (.tail _ mem) (inner t (.tail _ mem))]
  | literal choices => cases choices <;> rfl
  | required inner ih => exact ih within
  | notRequired inner ih => exact ih within
  | documented doc inner ih => exact ih within
  | _ => rfl

theorem references_eq (agree : source.Agree other K) (within : t.Within K) :
    t.references source = t.references other := by
  have option : ∀ o : Option TypeExpr,
      (∀ t, o = some t → t.references source = t.references other) →
      referencesOption source o = referencesOption other o := by
    intro o ih
    cases o with
    | none => rfl
    | some t => exact ih t rfl
  have all : ∀ ts : List TypeExpr, (∀ t ∈ ts, t.references source = t.references other) →
      referencesAll source ts = referencesAll other ts := by
    intro ts ih
    rw [referencesAll_eq_flatMap, referencesAll_eq_flatMap]
    exact List.flatMap_congr ih
  induction t using TypeExpr.induction with
  | named key args ih =>
    obtain ⟨known, args_within⟩ := within_named.mp within
    rw [TypeExpr.references, TypeExpr.references, agree.contains known,
      all args fun a mem => ih a mem (args_within a mem)]
  | list element ih =>
    have inner := within_list.mp within
    exact option element fun t some => ih t some (inner t some)
  | map key value ihk ihv =>
    obtain ⟨inner_key, inner_value⟩ := within_map.mp within
    rw [TypeExpr.references, TypeExpr.references,
      option key fun t some => ihk t some (inner_key t some),
      option value fun t some => ihv t some (inner_value t some)]
  | tuple elements ih =>
    exact all elements fun t mem => ih t mem (within_tuple.mp within t mem)
  | variadic element ih => exact ih within
  | union members ih =>
    exact all members fun t mem => ih t mem (within_union.mp within t mem)
  | required inner ih => exact ih within
  | notRequired inner ih => exact ih within
  | documented doc inner ih => exact ih within
  | _ => rfl

/-! ## Searches for inherited records -/

/-- A search comes to the same records, and derives the same for them, as long as it starts from
bases within the set. -/
theorem ancestryFrom_eq (agree : source.Agree other K) {σ : Type}
    {inherit : σ → RecordDef → List TypeExpr → σ} (pending : List (TypeExpr × σ))
    (visited : List TypeKey) (within : ∀ p ∈ pending, p.1.Within K) :
    source.ancestryFrom inherit pending visited = other.ancestryFrom inherit pending visited := by
  match pending with
  | [] => rw [ancestryFrom, ancestryFrom]
  | (base, heir) :: rest =>
    have rest_within : ∀ p ∈ rest, p.1.Within K := fun p mem => within p (.tail _ mem)
    have base_within : base.Within K := within _ (.head _)
    rcases source.leads_cases visited base with ⟨key, args, r, leads⟩ | idle
    · have known := (within_named.mp (leads.named ▸ base_within.unwrapped)).1
      have leads' : other.Leads visited base key args r :=
        ⟨leads.named, leads.fresh, agree.lookup key known ▸ leads.lookup⟩
      rw [ancestryFrom_of_leads leads, ancestryFrom_of_leads leads']
      refine congrArg _ (ancestryFrom_eq agree _ _ fun p mem => ?_)
      rcases List.mem_append.mp mem with mem | mem
      · obtain ⟨b, inherited, rfl⟩ := List.mem_map.mp mem
        exact agree.closed key _ known leads.lookup b (TypeDef.base_mem_types inherited)
      · exact rest_within p mem
    · have idle' : ∀ key args r, ¬other.Leads visited base key args r := by
        intro key args r leads
        have known := (within_named.mp (leads.named ▸ base_within.unwrapped)).1
        exact idle key args r
          ⟨leads.named, leads.fresh, (agree.lookup key known).trans leads.lookup⟩
      rw [ancestryFrom_of_idle idle, ancestryFrom_of_idle idle']
      exact ancestryFrom_eq agree _ _ rest_within
termination_by (source.unvisited visited, pending.length)
decreasing_by
  · exact .left _ _ leads.unvisited_lt
  · exact .right _ (Nat.lt_succ_self _)

theorem ancestry_eq (agree : source.Agree other K) {σ : Type}
    {inherit : σ → RecordDef → List TypeExpr → σ} {r : RecordDef} {self : σ}
    (bases : ∀ b ∈ r.bases, b.Within K) :
    source.ancestry inherit r self = other.ancestry inherit r self := by
  refine agree.ancestryFrom_eq _ _ fun p mem => ?_
  obtain ⟨b, inherited, rfl⟩ := List.mem_map.mp mem
  exact bases b inherited

/-! ## Definitions -/

section

variable {r : RecordDef}

theorem ownFields_eq (agree : source.Agree other K)
    (types : ∀ t ∈ (TypeDef.record r).types, t.Within K) :
    r.ownFields source = r.ownFields other := by
  have inherited : r.inheritedTypes source = r.inheritedTypes other := by
    funext name
    rw [RecordDef.inheritedTypes, RecordDef.inheritedTypes,
      agree.ancestry_eq fun b mem => types b (TypeDef.base_mem_types mem)]
  unfold RecordDef.ownFields RecordDef.isInherited
  rw [inherited]

theorem property_eq (agree : source.Agree other K) {f : FieldDef} (within : f.type.Within K) :
    f.property source = f.property other := by
  rw [FieldDef.property, FieldDef.property, inner_ofType, agree.node_eq within.unwrapped]

theorem fieldErrors_eq (agree : source.Agree other K) {f : FieldDef} (within : f.type.Within K) :
    f.errors source = f.errors other := by
  rw [FieldDef.errors, FieldDef.errors, inner_ofType, agree.errors_eq within.unwrapped]

theorem recordDeclaration_eq (agree : source.Agree other K)
    (types : ∀ t ∈ (TypeDef.record r).types, t.Within K) :
    r.declaration source = r.declaration other := by
  have own : ∀ f ∈ r.ownFields other, f.property source = f.property other := fun f mem =>
    agree.property_eq (types _ (TypeDef.field_mem_types (List.mem_filter.mp mem).1))
  rw [RecordDef.declaration, RecordDef.declaration, agree.ownFields_eq types,
    agree.nodes_eq fun b mem => types b (TypeDef.base_mem_types mem),
    List.map_congr_left fun f mem => congrArg Member.property (own f mem)]
  cases extra : r.extra with
  | none => rfl
  | some t =>
    dsimp only
    rw [agree.node_eq (types t (TypeDef.extra_mem_types extra))]

theorem recordErrors_eq (agree : source.Agree other K)
    (types : ∀ t ∈ (TypeDef.record r).types, t.Within K) : r.errors source = r.errors other := by
  have bases : errorsAll source r.bases = errorsAll other r.bases := by
    rw [errorsAll_eq_flatMap, errorsAll_eq_flatMap]
    exact List.flatMap_congr fun b mem => agree.errors_eq (types b (TypeDef.base_mem_types mem))
  have fields : (r.ownFields other).flatMap (·.errors source) =
      (r.ownFields other).flatMap (·.errors other) :=
    List.flatMap_congr fun f own =>
      agree.fieldErrors_eq (types _ (TypeDef.field_mem_types (List.mem_filter.mp own).1))
  have further : errorsOption source r.extra = errorsOption other r.extra := by
    cases extra : r.extra with
    | none => rfl
    | some t => exact agree.errors_eq (types t (TypeDef.extra_mem_types extra))
  rw [RecordDef.errors, RecordDef.errors, agree.ownFields_eq types, bases, fields, further]

theorem recordReferences_eq (agree : source.Agree other K)
    (types : ∀ t ∈ (TypeDef.record r).types, t.Within K) :
    r.references source = r.references other := by
  have bases : referencesAll source r.bases = referencesAll other r.bases := by
    rw [referencesAll_eq_flatMap, referencesAll_eq_flatMap]
    exact List.flatMap_congr fun b mem =>
      agree.references_eq (types b (TypeDef.base_mem_types mem))
  have fields : (r.ownFields other).flatMap (fun f => f.type.references source) =
      (r.ownFields other).flatMap (fun f => f.type.references other) :=
    List.flatMap_congr fun f own =>
      agree.references_eq (types _ (TypeDef.field_mem_types (List.mem_filter.mp own).1))
  have further : referencesOption source r.extra = referencesOption other r.extra := by
    cases extra : r.extra with
    | none => rfl
    | some t => exact agree.references_eq (types t (TypeDef.extra_mem_types extra))
  rw [RecordDef.references, RecordDef.references, agree.ownFields_eq types, bases, fields, further]

end

/-- What is declared of a key of the set, with its errors and its references. -/
theorem declaration_eq (agree : source.Agree other K) (known : K key) :
    source.declaration key = other.declaration key := by
  unfold Registry.declaration
  rw [← agree.lookup key known]
  cases lookup : source.lookup key with
  | none => rfl
  | some d =>
    have types := agree.closed key d known lookup
    cases d with
    | opaqueType name => rfl
    | aliased a =>
      dsimp only
      rw [agree.node_eq (types a.target (.head _))]
    | record r =>
      dsimp only
      rw [agree.recordDeclaration_eq types]

theorem keyErrors_eq (agree : source.Agree other K) (known : K key) :
    source.errors key = other.errors key := by
  unfold Registry.errors
  rw [← agree.lookup key known]
  cases lookup : source.lookup key with
  | none => rfl
  | some d =>
    have types := agree.closed key d known lookup
    cases d with
    | opaqueType name => rfl
    | aliased a => exact agree.errors_eq (types a.target (.head _))
    | record r => exact agree.recordErrors_eq types

theorem keyReferences_eq (agree : source.Agree other K) (known : K key) :
    source.references key = other.references key := by
  unfold Registry.references
  rw [← agree.lookup key known]
  cases lookup : source.lookup key with
  | none => rfl
  | some d =>
    have types := agree.closed key d known lookup
    cases d with
    | opaqueType name => rfl
    | aliased a => exact agree.references_eq (types a.target (.head _))
    | record r => exact agree.recordReferences_eq types

/-- The declaration of a key of the set refers to keys of the set only. -/
theorem known_of_mem_references (agree : source.Agree other K) (known : K key) {key' : TypeKey}
    (mem : key' ∈ source.references key) : K key' := by
  rw [references_eq_successors] at mem
  obtain ⟨d, lookup, t, type, args, part⟩ := refers_of_mem_successors mem
  exact agree.closed key d known lookup t type key' (mem_mentions.mpr ⟨args, part⟩)

/-! ## Walks -/

theorem declare_eq (agree : source.Agree other K) (known : K key) (w : Graph.Walk) :
    w.declare source key = w.declare other key := by
  rw [Graph.Walk.declare, Graph.Walk.declare, agree.declaration_eq known, agree.keyErrors_eq known]

/-- A walk that waits for keys of the set only comes to no others, and declares the same. -/
theorem run_eq (agree : source.Agree other K) (pending : List TypeKey) (w : Graph.Walk)
    (known : ∀ key ∈ pending, K key) :
    Graph.Walk.run source pending w = Graph.Walk.run other pending w := by
  induction pending, w using Graph.Walk.run.induct source with
  | case1 w => rw [Graph.Walk.run, Graph.Walk.run]
  | case2 key rest w fresh described ih =>
    have here : K key := known key (.head _)
    have described' : key ∈ other.keys := (agree.mem_keys here).mp described
    have next : ∀ k ∈ Graph.Walk.enqueue (key :: w.visited) rest (source.references key), K k := by
      intro k mem
      rcases Graph.Walk.mem_enqueue.mp mem with waiting | ⟨referred, _⟩
      · exact known k (.tail _ waiting)
      · exact agree.known_of_mem_references here referred
    rw [Graph.Walk.run, dif_pos fresh, dif_pos described, ih next, agree.keyReferences_eq here,
      agree.declare_eq here, Graph.Walk.run, dif_pos fresh, dif_pos described']
  | case3 key rest w fresh undescribed ih =>
    have here : K key := known key (.head _)
    have undescribed' : key ∉ other.keys := fun h => undescribed ((agree.mem_keys here).mpr h)
    rw [Graph.Walk.run, dif_pos fresh, dif_neg undescribed, ih fun k mem => known k (.tail _ mem),
      agree.declare_eq here, Graph.Walk.run, dif_pos fresh, dif_neg undescribed']
  | case4 key rest w seen ih =>
    rw [Graph.Walk.run, dif_neg seen, ih fun k mem => known k (.tail _ mem), Graph.Walk.run,
      dif_neg seen]

theorem build_eq (agree : source.Agree other K) (known : K key) :
    Graph.build source key = Graph.build other key := by
  rw [Graph.build, Graph.build, agree.run_eq [key] {} (List.forall_mem_singleton.mpr known)]

end Registry.Agree

end SchemaDialogue
