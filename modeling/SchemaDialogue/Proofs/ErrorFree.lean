import SchemaDialogue.Proofs.Expressible
import SchemaDialogue.Proofs.Naming

/-!
# Graphs without errors

A graph is built without errors exactly when nothing that is reached from the root has to degrade
(`Graph.errors_build_eq_nil_iff`), and it then declares all that is reached.

What is reached goes by the definitions, with all of their fields. The walk goes by the
declarations, which leave fields to the bases:

* **from the definitions**: a definition that can be expressed has no errors
  (`Registry.errors_eq_nil_of_expressible`), and names that differ do not collide
  (`Walk.errors_declareAll`);
* **from the declarations**: what is declared without errors expresses all fields, since those that
  are left out are declared further up (`Complete.expressible`), and refers to nothing that is not
  declared (`Complete.mem_of_refers`).
-/

namespace SchemaDialogue

/-- Nothing in a definition has to degrade: it is a record or an alias, its type expressions can be
expressed, and the optionality of no field is given more than once. -/
structure TypeDef.Expressible (source : Registry) (d : TypeDef) : Prop where
  supported : ∀ name, d ≠ .opaqueType name
  types : ∀ t ∈ d.types, t.Expressible source
  overrides : ∀ r, d = .record r → ∀ f ∈ r.fields, (FieldWrapping.ofType f.type).overrides ≤ 1

theorem FieldDef.errors_eq_nil_iff {source : Registry} {f : FieldDef} :
    f.errors source = [] ↔
      (FieldWrapping.ofType f.type).overrides ≤ 1 ∧ f.type.Expressible source := by
  unfold FieldDef.errors
  rw [List.append_eq_nil_iff, List.replicate_eq_nil_iff, TypeExpr.inner_ofType,
    TypeExpr.errors_unwrapped, TypeExpr.errors_eq_nil_iff]
  refine and_congr_left fun _ => ?_
  omega

namespace Registry

variable {source : Registry} {root key key' : TypeKey} {d : TypeDef}

/-- The definition of a key mentions another key. -/
def Refers (source : Registry) (key key' : TypeKey) : Prop :=
  ∃ d, source.lookup key = some d ∧ ∃ t ∈ d.types, ∃ args, TypeExpr.Part (.named key' args) t

/-- A key is reached from the root through what definitions mention. -/
def Reaches (source : Registry) (root key : TypeKey) : Prop :=
  Relation.ReflTransGen (Refers source) root key

/-- Nothing that is reached from the root has to degrade. -/
structure Expressible (source : Registry) (root : TypeKey) : Prop where
  described : source.contains root = true
  definitions : ∀ key d, source.Reaches root key → source.lookup key = some d → d.Expressible source
  names : ∀ key key' d d', source.Reaches root key → source.Reaches root key' →
    source.lookup key = some d → source.lookup key' = some d' → d.name = d'.name → key = key'

/-! ## What a declaration shows of its definition -/

theorem shown_of_record {r : RecordDef} (lookup : source.lookup key = some (.record r)) :
    source.shown key = r.bases ++ (r.ownFields source).map (·.type) ++ r.extra.toList := by
  rw [shown, lookup]

theorem shown_of_aliased {a : AliasDef} (lookup : source.lookup key = some (.aliased a)) :
    source.shown key = [a.target] := by
  rw [shown, lookup]

theorem mem_types_of_mem_shown {t : TypeExpr} (h : t ∈ source.shown key) :
    ∃ d, source.lookup key = some d ∧ t ∈ d.types := by
  unfold shown at h
  cases lookup : source.lookup key with
  | none =>
    rw [lookup] at h
    cases h
  | some d =>
    rw [lookup] at h
    refine ⟨d, rfl, ?_⟩
    cases d with
    | opaqueType name => cases h
    | aliased a => exact h
    | record r =>
      rcases List.mem_append.mp h with h | h
      · rcases List.mem_append.mp h with h | h
        · exact TypeDef.base_mem_types h
        · obtain ⟨f, own, rfl⟩ := List.mem_map.mp h
          exact TypeDef.field_mem_types (List.mem_filter.mp own).1
      · exact TypeDef.extra_mem_types (Option.mem_toList.mp h)

theorem refers_of_mem_successors (h : key' ∈ source.successors key) : source.Refers key key' := by
  obtain ⟨t, shown, mem⟩ := List.mem_flatMap.mp h
  obtain ⟨d, lookup, type⟩ := mem_types_of_mem_shown shown
  rw [← TypeExpr.references_eq] at mem
  obtain ⟨args, part⟩ := TypeExpr.mem_mentions.mp (TypeExpr.mem_mentions_of_mem_references mem)
  exact ⟨d, lookup, t, type, args, part⟩

theorem errors_eq_nil_of_expressible (lookup : source.lookup key = some d)
    (h : d.Expressible source) : source.errors key = [] := by
  unfold errors
  rw [lookup]
  cases d with
  | opaqueType name => exact absurd rfl (h.supported name)
  | aliased a => exact TypeExpr.errors_eq_nil_iff.mpr (h.types a.target (.head _))
  | record r =>
    show r.errors source = []
    rw [RecordDef.errors, TypeExpr.errorsAll_eq_flatMap]
    have bases : r.bases.flatMap (TypeExpr.errors source) = [] := by
      rw [List.flatMap_eq_nil_iff]
      intro t mem
      exact TypeExpr.errors_eq_nil_iff.mpr (h.types t (TypeDef.base_mem_types mem))
    have fields : (r.ownFields source).flatMap (·.errors source) = [] := by
      rw [List.flatMap_eq_nil_iff]
      intro f own
      have mem : f ∈ r.fields := (List.mem_filter.mp own).1
      exact FieldDef.errors_eq_nil_iff.mpr
        ⟨h.overrides r rfl f mem, h.types f.type (TypeDef.field_mem_types mem)⟩
    have extra : TypeExpr.errorsOption source r.extra = [] := by
      cases some : r.extra with
      | none => rfl
      | some t => exact TypeExpr.errors_eq_nil_iff.mpr (h.types t (TypeDef.extra_mem_types some))
    rw [bases, fields, extra]
    rfl

/-- What a declaration without errors shows can be expressed. -/
theorem expressible_of_mem_shown (none : source.errors key = []) {t : TypeExpr}
    (h : t ∈ source.shown key) : t.Expressible source := by
  rw [← TypeExpr.errors_eq_nil_iff]
  unfold shown at h
  unfold errors at none
  cases lookup : source.lookup key with
  | none =>
    rw [lookup] at h
    cases h
  | some d =>
    rw [lookup] at h none
    cases d with
    | opaqueType name => cases h
    | aliased a =>
      obtain rfl := List.mem_singleton.mp h
      exact none
    | record r =>
      have none : r.errors source = [] := none
      rw [RecordDef.errors, List.append_eq_nil_iff, List.append_eq_nil_iff,
        TypeExpr.errorsAll_eq_flatMap, List.flatMap_eq_nil_iff, List.flatMap_eq_nil_iff] at none
      obtain ⟨⟨bases, fields⟩, extra⟩ := none
      rcases List.mem_append.mp h with h | h
      · rcases List.mem_append.mp h with h | h
        · exact bases t h
        · obtain ⟨f, own, rfl⟩ := List.mem_map.mp h
          exact TypeExpr.errors_eq_nil_iff.mpr (FieldDef.errors_eq_nil_iff.mp (fields f own)).2
      · rw [Option.mem_toList.mp h] at extra
        exact extra

/-- A declaration without errors refers to all that the type expressions in it mention. -/
theorem mem_references_of_mem_shown (none : source.errors key = []) {t : TypeExpr}
    (h : t ∈ source.shown key) (mem : key' ∈ t.mentions) : key' ∈ source.references key := by
  rw [references_eq_successors]
  refine List.mem_flatMap.mpr ⟨t, h, ?_⟩
  rw [(expressible_of_mem_shown none h).degrade_eq]
  exact mem

end Registry

/-- All that comes in breadth-first order has what the first layer has, if it is handed on. -/
theorem BreadthFirst.forall_mem {next : TypeKey → List TypeKey} {seen layer order : List TypeKey}
    {P : TypeKey → Prop} (h : BreadthFirst next seen layer order) (first : ∀ k ∈ layer, P k)
    (on : ∀ k k', P k → k' ∈ next k → P k') : ∀ k ∈ order, P k := by
  induction h with
  | done =>
    intro k mem
    cases mem
  | layer _ _ ih =>
    intro k mem
    rcases List.mem_append.mp mem with mem | mem
    · exact first k mem
    · refine ih (fun k' new => ?_) k mem
      obtain ⟨k'', before, follows⟩ := List.mem_flatMap.mp (mem_unseen.mp new).1
      exact on k'' k' (first k'' before) follows

namespace Graph

open Registry

variable {source : Registry} {root key key' : TypeKey} {order : List TypeKey} {g : Graph}

/-! ## From the definitions -/

/-- Declaring keys that have no errors, under names that differ, adds no errors. -/
theorem Walk.errors_declareAll (w : Walk) (own : ∀ k ∈ order, source.errors k = [])
    (distinct : (order.map fun k => (source.declaration k).name).Nodup)
    (free : ∀ k ∈ order, (source.declaration k).name ∉ w.names.keys) :
    (w.declareAll source order).graph.errors = w.graph.errors := by
  induction order generalizing w with
  | nil => rfl
  | cons key rest ih =>
    rw [List.map_cons, List.nodup_cons] at distinct
    have new : w.names.find? (source.declaration key).name = none :=
      Entries.find?_eq_none.mpr (free key (.head _))
    have step : w.declare source key =
        { visited := key :: w.visited
          names := w.names ++ [((source.declaration key).name, key)]
          graph := ⟨w.graph.declarations ++ [(key, source.declaration key)], w.graph.errors⟩ } := by
      unfold Walk.declare
      dsimp only
      rw [new, own key (.head _), List.append_nil]
    show ((w.declare source key).declareAll source rest).graph.errors = _
    rw [step]
    refine ih _ (fun k mem => own k (.tail _ mem)) distinct.2 fun k mem taken => ?_
    have keys : Entries.keys (w.names ++ [((source.declaration key).name, key)]) =
        w.names.keys ++ [(source.declaration key).name] := List.map_append
    rw [keys] at taken
    rcases List.mem_append.mp taken with old | same
    · exact free k (.tail _ mem) old
    · rw [List.mem_singleton] at same
      exact distinct.1 (List.mem_map.mpr ⟨k, mem, same⟩)

/-- What comes in breadth-first order from the root is reached. -/
theorem reaches_of_mem_order (layers : BreadthFirst source.successors [] [root] order)
    (mem : key ∈ order) : source.Reaches root key := by
  refine layers.forall_mem (fun k first => ?_) (fun k k' reached follows => ?_) key mem
  · rw [List.mem_singleton.mp first]
    exact .refl
  · exact Relation.ReflTransGen.tail reached (refers_of_mem_successors follows)

theorem reaches_of_mem_declarations (mem : key ∈ (build source root).declarations.keys) :
    source.Reaches root key := by
  obtain ⟨order, layers, run⟩ := run_root source root
  obtain ⟨p, declared, rfl⟩ := List.mem_map.mp mem
  rw [declarations_of_run run] at declared
  obtain ⟨k, kept, rfl⟩ := List.mem_map.mp declared
  exact reaches_of_mem_order layers (mem_of_mem_unshadowed kept)

/-- What is mentioned is described, so all that is reached is. -/
theorem contains_of_reaches (h : source.Expressible root) (reached : source.Reaches root key) :
    source.contains key = true := by
  rcases reached.cases_tail with rfl | ⟨k, before, d, lookup, t, type, args, part⟩
  · exact h.described
  · have expressible := (h.definitions k d before lookup).types t type
    exact expressible.contains (TypeExpr.mem_mentions.mpr ⟨args, part⟩)

theorem errors_build_of_expressible (h : source.Expressible root) :
    (build source root).errors = [] := by
  obtain ⟨order, layers, run⟩ := run_root source root
  have reached : ∀ k ∈ order, source.Reaches root k := fun k => reaches_of_mem_order layers
  have described : ∀ k ∈ order, ∃ d, source.lookup k = some d := fun k mem =>
    Option.isSome_iff_exists.mp (contains_of_reaches h (reached k mem))
  have own : ∀ k ∈ order, source.errors k = [] := by
    intro k mem
    obtain ⟨d, lookup⟩ := described k mem
    exact errors_eq_nil_of_expressible lookup (h.definitions k d (reached k mem) lookup)
  have distinct : (order.map fun k => (source.declaration k).name).Nodup := by
    have once : order.Nodup := layers.nodup (List.nodup_singleton root)
    refine List.Nodup.map_on (fun k mem k' mem' same => ?_) once
    obtain ⟨d, lookup⟩ := described k mem
    obtain ⟨d', lookup'⟩ := described k' mem'
    rw [name_declaration lookup, name_declaration lookup'] at same
    exact h.names k k' d d' (reached k mem) (reached k' mem') lookup lookup' same
  rw [build, run]
  exact Walk.errors_declareAll {} own distinct fun _ _ taken => by cases taken

/-! ## From the declarations -/

namespace Complete

/-- What is declared without errors is described and not opaque. -/
theorem lookup (h : Complete source g) (mem : key ∈ g.declarations.keys) :
    ∃ d, source.lookup key = some d ∧ ∀ name, d ≠ .opaqueType name := by
  have none := h.errors key mem
  unfold Registry.errors at none
  cases lookup : source.lookup key with
  | none =>
    rw [lookup] at none
    cases none
  | some d =>
    rw [lookup] at none
    refine ⟨d, rfl, ?_⟩
    rintro name rfl
    cases none

/-- What a declaration shows only mentions what is declared. -/
theorem mem_of_shown (h : Complete source g) (mem : key ∈ g.declarations.keys) {t : TypeExpr}
    (shown : t ∈ source.shown key) (mentioned : key' ∈ t.mentions) :
    key' ∈ g.declarations.keys :=
  h.references key mem key' (mem_references_of_mem_shown (h.errors key mem) shown mentioned)

/-- What is above a declared record is declared. -/
theorem mem_of_extends (h : Complete source g) (mem : key ∈ g.declarations.keys)
    (path : Relation.ReflTransGen (Extends source) key key') : key' ∈ g.declarations.keys := by
  induction path with
  | refl => exact mem
  | tail _ step ih =>
    obtain ⟨r, base, args, lookup, hbase, named⟩ := step
    have shown := List.mem_append_left r.extra.toList
      (List.mem_append_left ((r.ownFields source).map (·.type)) hbase)
    rw [← shown_of_record lookup] at shown
    refine h.mem_of_shown ih shown (TypeExpr.mem_mentions.mpr ⟨args, ?_⟩)
    exact named ▸ TypeExpr.Part.unwrapped base

/-- The type expressions that a declaration shows can be expressed and mention nothing that is not
declared. -/
theorem shown (h : Complete source g) (mem : key ∈ g.declarations.keys) {t : TypeExpr}
    (shown : t ∈ source.shown key) :
    t.Expressible source ∧ ∀ k ∈ t.mentions, k ∈ g.declarations.keys :=
  ⟨expressible_of_mem_shown (h.errors key mem) shown, fun _ => h.mem_of_shown mem shown⟩

/-- So do the fields that it leaves to the bases: they are declared further up. -/
theorem field (h : Complete source g)
    (acyclic : ∀ k ∈ g.declarations.keys, ¬Relation.TransGen (Extends source) k k)
    (mem : key ∈ g.declarations.keys) {r : RecordDef}
    (lookup : source.lookup key = some (.record r)) {f : FieldDef} (field : f ∈ r.fields) :
    (FieldWrapping.ofType f.type).overrides ≤ 1 ∧ f.type.Expressible source ∧
      ∀ k ∈ f.type.mentions, k ∈ g.declarations.keys := by
  obtain ⟨k, p, f', path, lookup', own, backs⟩ := exists_keeper []
    (fun _ above => by cases above)
    (fun k path => acyclic k (h.mem_of_extends mem path)) lookup field
  have mem' : k ∈ g.declarations.keys := h.mem_of_extends mem path
  have shown' : f'.type ∈ source.shown k := by
    rw [shown_of_record lookup']
    exact List.mem_append_left _ (List.mem_append_right _ (List.mem_map_of_mem own))
  have errors : f'.errors source = [] := by
    have none := h.errors k mem'
    unfold Registry.errors at none
    rw [lookup'] at none
    have none := (List.append_eq_nil_iff.mp (List.append_eq_nil_iff.mp none).1).2
    exact List.flatMap_eq_nil_iff.mp none f' own
  obtain ⟨once, expressible⟩ := FieldDef.errors_eq_nil_iff.mp errors
  refine ⟨backs.overrides ▸ once, backs.expressible expressible, fun k' mentioned => ?_⟩
  exact h.mem_of_shown mem' shown' (backs.mentions k' mentioned)

/-- All type expressions of a declared definition can be expressed and mention nothing that is not
declared. -/
theorem types (h : Complete source g)
    (acyclic : ∀ k ∈ g.declarations.keys, ¬Relation.TransGen (Extends source) k k)
    (mem : key ∈ g.declarations.keys) {d : TypeDef} (lookup : source.lookup key = some d)
    {t : TypeExpr} (type : t ∈ d.types) :
    t.Expressible source ∧ ∀ k ∈ t.mentions, k ∈ g.declarations.keys := by
  cases d with
  | opaqueType name => cases type
  | aliased a =>
    refine h.shown mem ?_
    rw [shown_of_aliased lookup]
    exact type
  | record r =>
    rcases List.mem_append.mp type with type | extra
    · rcases List.mem_append.mp type with base | field
      · refine h.shown mem ?_
        rw [shown_of_record lookup]
        exact List.mem_append_left _ (List.mem_append_left _ base)
      · obtain ⟨f, own, rfl⟩ := List.mem_map.mp field
        exact (h.field acyclic mem lookup own).2
    · refine h.shown mem ?_
      rw [shown_of_record lookup]
      exact List.mem_append_right _ extra

theorem mem_of_refers (h : Complete source g)
    (acyclic : ∀ k ∈ g.declarations.keys, ¬Relation.TransGen (Extends source) k k)
    (mem : key ∈ g.declarations.keys) (refers : source.Refers key key') :
    key' ∈ g.declarations.keys := by
  obtain ⟨d, lookup, t, type, args, part⟩ := refers
  exact (h.types acyclic mem lookup type).2 key' (TypeExpr.mem_mentions.mpr ⟨args, part⟩)

/-- All that is reached from a declared key is declared. -/
theorem mem_of_reaches (h : Complete source g)
    (acyclic : ∀ k ∈ g.declarations.keys, ¬Relation.TransGen (Extends source) k k)
    (mem : root ∈ g.declarations.keys) (reached : source.Reaches root key) :
    key ∈ g.declarations.keys := by
  induction reached with
  | refl => exact mem
  | tail _ refers ih => exact h.mem_of_refers acyclic ih refers

/-- Nothing in a declared definition has to degrade. -/
theorem expressible (h : Complete source g)
    (acyclic : ∀ k ∈ g.declarations.keys, ¬Relation.TransGen (Extends source) k k)
    (mem : key ∈ g.declarations.keys) {d : TypeDef} (lookup : source.lookup key = some d) :
    d.Expressible source where
  supported name := by
    obtain ⟨d', lookup', supported⟩ := h.lookup mem
    cases lookup.symm.trans lookup'
    exact supported name
  types _ type := (h.types acyclic mem lookup type).1
  overrides r record f field := (h.field acyclic mem (record ▸ lookup) field).1

end Complete

theorem expressible_of_errors
    (acyclic : ∀ key, source.Reaches root key → ¬Relation.TransGen (Extends source) key key)
    (none : (build source root).errors = []) :
    source.Expressible root ∧
      ∀ key, key ∈ (build source root).declarations.keys ↔ source.Reaches root key := by
  obtain ⟨complete, declared⟩ := complete_of_errors none
  have acyclic : ∀ k ∈ (build source root).declarations.keys,
      ¬Relation.TransGen (Extends source) k k :=
    fun k mem => acyclic k (reaches_of_mem_declarations mem)
  have reach : ∀ {k}, source.Reaches root k → k ∈ (build source root).declarations.keys :=
    fun reached => complete.mem_of_reaches acyclic declared reached
  refine ⟨⟨?_, ?_, ?_⟩, fun k => ⟨reaches_of_mem_declarations, reach⟩⟩
  · obtain ⟨d, lookup, _⟩ := complete.lookup declared
    rw [Registry.contains, lookup]
    rfl
  · exact fun k d reached lookup => complete.expressible acyclic (reach reached) lookup
  · intro k k' d d' reached reached' lookup lookup' same
    -- each of them is the one key that keeps the name
    obtain ⟨order, layers, run⟩ := run_root source root
    have kept : ∀ {k}, source.Reaches root k → k ∈ unshadowed source order := by
      intro k reached
      obtain ⟨p, declared, rfl⟩ := List.mem_map.mp (reach reached)
      rw [declarations_of_run run] at declared
      obtain ⟨k, mem, rfl⟩ := List.mem_map.mp declared
      exact mem
    refine List.inj_on_of_nodup_map (nodup_unshadowed source order) (kept reached)
      (kept reached') ?_
    rw [name_declaration lookup, name_declaration lookup', same]

/-- Where no record that is reached from the root is its own ancestor, a graph is built without
errors exactly when nothing that is reached has to degrade. It then declares what is reached, and
none of the type expressions that it shows has degraded. -/
theorem errors_build_eq_nil_iff (source : Registry) (root : TypeKey)
    (acyclic : ∀ key, source.Reaches root key → ¬Relation.TransGen (Extends source) key key) :
    ((build source root).errors = [] ↔ source.Expressible root) ∧
    ((build source root).errors = [] →
      (∀ key, key ∈ (build source root).declarations.keys ↔ source.Reaches root key) ∧
      ∀ key ∈ (build source root).declarations.keys, ∀ t ∈ source.shown key,
        t.degrade source = t) := by
  constructor
  · exact ⟨fun none => (expressible_of_errors acyclic none).1, errors_build_of_expressible⟩
  · intro none
    refine ⟨(expressible_of_errors acyclic none).2, fun key mem t shown => ?_⟩
    exact ((complete_of_errors none).1.shown mem shown).1.degrade_eq

/-! ## An heir that leaves its field to its base -/

theorem acyclic_holders {a : TypeExpr} (key : TypeKey) :
    ¬Relation.TransGen (Extends (holders a)) key key := by
  intro cycle
  obtain ⟨k, step, path⟩ := Relation.TransGen.head'_iff.mp cycle
  obtain ⟨rfl, rfl⟩ := extends_holders step
  rcases path.cases_head with same | ⟨k, step, _⟩
  · exact absurd same (by decide)
  · exact absurd (extends_holders step).1 (by decide)

theorem lookup_holders {a : TypeExpr} {d : TypeDef} (lookup : (holders a).lookup key = some d) :
    key = "Holder" ∧ d = .record holderDef ∨ key = "Heir" ∧ d = .record (heirDef a) := by
  unfold Registry.lookup holders Entries.find? at lookup
  rw [List.lookup_cons, List.lookup_cons] at lookup
  split at lookup
  · rename_i same
    exact .inl ⟨eq_of_beq same, (Option.some.inj lookup).symm⟩
  · split at lookup
    · rename_i same
      exact .inr ⟨eq_of_beq same, (Option.some.inj lookup).symm⟩
    · cases lookup

theorem expressible_holders : (holders (.var "T")).Expressible "Heir" where
  described := rfl
  definitions key d _ lookup := by
    have var : (TypeExpr.var "T").Expressible (holders (.var "T")) := by
      refine ⟨fun key args part => ?_, fun part => ?_, fun part => ?_⟩ <;> cases part
    have base : (TypeExpr.named "Holder" [.var "T"]).Expressible (holders (.var "T")) := by
      rw [← TypeExpr.errors_eq_nil_iff]
      rfl
    rcases lookup_holders lookup with ⟨_, rfl⟩ | ⟨_, rfl⟩
    · refine ⟨fun name same => (by cases same), fun t type => ?_, fun r record f field => ?_⟩
      · rw [List.mem_singleton.mp type]
        exact var
      · cases record
        rw [List.mem_singleton.mp field]
        decide
    · refine ⟨fun name same => (by cases same), fun t type => ?_, fun r record f field => ?_⟩
      · rcases List.mem_cons.mp type with rfl | type
        · exact base
        · rw [List.mem_singleton.mp type]
          exact var
      · cases record
        rw [List.mem_singleton.mp field]
        decide
  names key key' d d' _ _ lookup lookup' same := by
    rcases lookup_holders lookup with ⟨rfl, rfl⟩ | ⟨rfl, rfl⟩ <;>
      rcases lookup_holders lookup' with ⟨rfl, rfl⟩ | ⟨rfl, rfl⟩
    · rfl
    · exact absurd same (by decide)
    · exact absurd same (by decide)
    · rfl

theorem errors_build_holders :
    (∀ key, (holders (.var "T")).Reaches "Heir" key →
      ¬Relation.TransGen (Extends (holders (.var "T"))) key key) ∧
    (build (holders (.var "T")) "Heir").errors = [] :=
  ⟨fun key _ => acyclic_holders key,
    (errors_build_eq_nil_iff _ "Heir" fun key _ => acyclic_holders key).1.mpr expressible_holders⟩

end Graph

end SchemaDialogue
