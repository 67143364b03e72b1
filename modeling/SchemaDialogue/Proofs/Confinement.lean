import SchemaDialogue.Proofs.Heritage
import SchemaDialogue.Proofs.Parts

/-!
# What a check is confined to

Whatever holds of a type, of its parts, of what is substituted in it and of the definitions that it
refers to (`Registry.Confines`) holds of all types that a check comes to: scopes stay confined as
definitions are entered, and so do the fields and further members that a record inherits.

The types that are written in the definitions which an annotation reaches (`Registry.Mentions`)
confine a check in this way, even though substitution makes new types of them: when no union is
among them, a check never comes to a union (`Registry.UnionFree.confines`).
-/

namespace SchemaDialogue

open TypeExpr (Part)

variable {P : TypeExpr → Prop} {source : Registry}

/-- The condition holds of all types that are bound in the scope. -/
structure Scope.Confined (P : TypeExpr → Prop) (s : Scope) : Prop where
  bindings : ∀ name bound, s.bindings.find? name = some bound → P bound.1
  this : ∀ this, s.this = some this → P this.1

theorem Scope.confined_empty : Scope.empty.Confined P where
  bindings _ _ h := by cases h
  this _ h := by cases h

namespace Registry

/-- A condition that a check does not leave. -/
structure Confines (source : Registry) (P : TypeExpr → Prop) : Prop where
  part : ∀ {t u}, P t → Part u t → P u
  substitute : ∀ {s : Scope} {t}, s.Confined P → P t → P (s.substitute t)
  definition : ∀ {key args d}, P (.named key args) → source.lookup key = some d →
    ∀ u ∈ d.types, P u

namespace Confines

variable {scope : Scope} {key : TypeKey} {args : List TypeExpr} {r : RecordDef}

section

variable {params : List String}

theorem bind (c : source.Confines P) (inside : scope.Confined P) (hargs : ∀ a ∈ args, P a)
    {name : String} {bound : ClosedType}
    (found : (scope.bind params args).find? name = some bound) : P bound.1 := by
  have mem := (List.of_mem_zip (Entries.mem_of_find?_ofList found)).2
  obtain ⟨a, ha, rfl⟩ := List.mem_map.mp mem
  exact c.substitute inside (hargs a ha)

theorem enter (c : source.Confines P) (inside : scope.Confined P) (hargs : ∀ a ∈ args, P a) :
    (scope.enter params args).Confined P where
  bindings _ _ found := c.bind inside hargs found
  this := inside.this

theorem enterRecord (c : source.Confines P) (inside : scope.Confined P)
    (type : P (.named key args)) : (scope.enterRecord key params args).Confined P where
  bindings _ _ found := c.bind inside (fun _ ha => c.part type (.named ha .refl)) found
  this this some := by
    cases some
    exact c.substitute inside type

end

/-- The records that a base brings, and the scopes inside them, stay confined. -/
theorem of_mem_branch (c : source.Confines P) {trail : List TypeKey} {scope : Scope}
    {base : TypeExpr} (inside : scope.Confined P) (hbase : P base) {q : RecordDef × Scope}
    (mem : q ∈ source.branch trail scope base) :
    (∀ u ∈ (TypeDef.record q.1).types, P u) ∧ q.2.Confined P := by
  rcases source.leads_cases trail base with ⟨key, args, r, leads⟩ | idle
  · -- the base is a record that is not on the trail yet: it comes first, then what its bases bring
    have type : P (.named key args) := leads.named ▸ c.part hbase (.unwrapped base)
    have types := c.definition type leads.lookup
    have inner : (inheritScope scope r args).Confined P :=
      c.enter inside fun a ha => c.part type (.named ha .refl)
    rw [branch_of_leads leads] at mem
    rcases List.mem_cons.mp mem with rfl | mem
    · exact ⟨types, inner⟩
    · obtain ⟨next, hnext, mem⟩ := List.mem_flatMap.mp mem
      exact c.of_mem_branch inner (types next (TypeDef.base_mem_types hnext)) mem
  · rw [branch_of_idle idle] at mem
    cases mem
termination_by source.unvisited trail
decreasing_by exact leads.unvisited_lt

theorem of_mem_heritage (c : source.Confines P) (inside : scope.Confined P)
    (types : ∀ u ∈ (TypeDef.record r).types, P u) {q : RecordDef × Scope}
    (mem : q ∈ source.heritage scope r) :
    (∀ u ∈ (TypeDef.record q.1).types, P u) ∧ q.2.Confined P := by
  rcases List.mem_cons.mp mem with rfl | mem
  · exact ⟨types, inside⟩
  · obtain ⟨base, hbase, mem⟩ := List.mem_flatMap.mp mem
    exact c.of_mem_branch inside (types base (TypeDef.base_mem_types hbase)) mem

/-- The fields of a shape, and the scopes that they are seen from, stay confined. -/
theorem field (c : source.Confines P) (inside : scope.Confined P)
    (types : ∀ u ∈ (TypeDef.record r).types, P u) {f : ShapeField Scope}
    (mem : f ∈ (source.shape scope r).fields) : P f.type ∧ f.scope.Confined P := by
  obtain ⟨d, inner, field, same⟩ := mem_shape_fields.mp mem
  rw [fieldOf_eq_findSome?] at field
  obtain ⟨q, hq, own⟩ := List.exists_of_findSome?_eq_some field
  obtain ⟨d', found, picked⟩ := Option.map_eq_some_iff.mp own
  cases picked
  obtain ⟨types', inside'⟩ := c.of_mem_heritage inside types hq
  rw [same]
  exact ⟨types' d.type (TypeDef.field_mem_types (List.mem_of_find?_eq_some found)), inside'⟩

theorem extra (c : source.Confines P) (inside : scope.Confined P)
    (types : ∀ u ∈ (TypeDef.record r).types, P u) {extra : TypeExpr} {inner : Scope}
    (some : (source.shape scope r).extra = some (extra, inner)) :
    P extra ∧ inner.Confined P := by
  rw [shape_extra] at some
  obtain ⟨q, hq, picked⟩ := List.exists_of_findSome?_eq_some some
  obtain ⟨t, ht, same⟩ := Option.map_eq_some_iff.mp picked
  cases same
  obtain ⟨types', inside'⟩ := c.of_mem_heritage inside types hq
  exact ⟨types' _ (TypeDef.extra_mem_types ht), inside'⟩

end Confines

/-! ## Types without unions -/

/-- The types that an annotation reaches: it and its parts, and those that are written in the
definitions that it refers to. -/
inductive Mentions (source : Registry) (root : TypeExpr) : TypeExpr → Prop
  | root : Mentions source root root
  | part {t u} : Mentions source root t → Part u t → Mentions source root u
  | definition {key args d u} : Mentions source root (.named key args) →
      source.lookup key = some d → u ∈ d.types → Mentions source root u

/-- No union is reached from the annotation. -/
def UnionFree (source : Registry) (root : TypeExpr) : Prop :=
  ∀ members, ¬source.Mentions root (.union members)

/-- No part is a union, and the definitions that are referred to are reached from the root. -/
structure Unionless (source : Registry) (root t : TypeExpr) : Prop where
  unions : ∀ members, ¬Part (.union members) t
  keys : ∀ key args, Part (.named key args) t → ∃ args', source.Mentions root (.named key args')

theorem UnionFree.unionless {root t : TypeExpr} (free : source.UnionFree root)
    (mentions : source.Mentions root t) : source.Unionless root t where
  unions members part := free members (mentions.part part)
  keys _ args part := ⟨args, mentions.part part⟩

theorem UnionFree.confines {root : TypeExpr} (free : source.UnionFree root) :
    source.Confines (source.Unionless root) where
  part unionless part :=
    ⟨fun members part' => unionless.unions members (part'.trans part),
      fun key args part' => unionless.keys key args (part'.trans part)⟩
  substitute := by
    intro s t inside unionless
    constructor
    · intro members part
      -- substitution makes no union of anything else, so this one was written or is bound
      cases Scope.yields_of_part_substitute part with
      | bound found part => exact (inside.bindings _ _ found).unions members part
      | this some part => exact (inside.this _ some).unions members part
      | any same => cases same
      | @kept q written notSelf notVar same =>
        cases q with
        | union members => exact unionless.unions members written
        | self => exact notSelf rfl
        | var name => exact notVar name rfl
        | _ => cases same
    · intro key args part
      rcases Scope.named_of_part_substitute part with
        ⟨args', written⟩ | ⟨name, bound, found, part⟩ | ⟨this, some, part⟩
      · exact unionless.keys key args' written
      · exact (inside.bindings name bound found).keys key args part
      · exact (inside.this this some).keys key args part
  definition := by
    intro key args d unionless lookup u hu
    obtain ⟨args', mentions⟩ := unionless.keys _ _ .refl
    exact free.unionless (mentions.definition lookup hu)

end Registry

end SchemaDialogue
