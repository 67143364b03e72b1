import SchemaDialogue.Interface.Convert
import SchemaDialogue.Proofs.Verdict
import SchemaDialogue.Proofs.Parts
import Mathlib.Logic.Relation

/-!
# Redeclared fields

The declaration of a record leaves out the fields that its bases declare with the same type
expression. This file compares the check of a registry with that of the registry in which these
fields are gone (`Registry.withoutRedeclared`).

Nothing changes where the bases give each of these fields back (`findings_withoutRedeclared`): with
the same presence, and with a type expression that means the same there. The comparison of type
expressions alone does not ensure this: `not_findings_withoutRedeclared` has a record whose base
binds the parameter of the field to something else.

* **records that inherit from each other**: `branch_congr` tells when the bases of a record bring
  the same to the record and to its heirs;
* **look-ups**: `fieldOf_rel`;
* **the check**: `check_withoutRedeclared`, by the induction of the check.
-/

namespace SchemaDialogue

namespace Registry

variable {source source' : Registry} {key : TypeKey} {r : RecordDef}

/-- The registry without the fields of a record that its declaration leaves out. -/
def withoutRedeclared (source : Registry) (key : TypeKey) (r : RecordDef) : Registry :=
  source.define key (.record { r with fields := r.ownFields source })

theorem lookup_withoutRedeclared :
    (source.withoutRedeclared key r).lookup key =
      some (.record { r with fields := r.ownFields source }) := by
  unfold lookup withoutRedeclared define
  rw [Entries.find?_insert, if_pos rfl]

theorem lookup_withoutRedeclared_of_ne {k : TypeKey} (h : k ≠ key) :
    (source.withoutRedeclared key r).lookup k = source.lookup k := by
  unfold lookup withoutRedeclared define
  rw [Entries.find?_insert, if_neg h]

theorem leads_withoutRedeclared {trail : List TypeKey} {base : TypeExpr} {k : TypeKey}
    {args : List TypeExpr} {p : RecordDef} (hk : k ≠ key) :
    (source.withoutRedeclared key r).Leads trail base k args p ↔
      source.Leads trail base k args p := by
  constructor
  · rintro ⟨named, fresh, lookup⟩
    exact ⟨named, fresh, lookup_withoutRedeclared_of_ne hk ▸ lookup⟩
  · rintro ⟨named, fresh, lookup⟩
    exact ⟨named, fresh, (lookup_withoutRedeclared_of_ne hk).trans lookup⟩

/-- A base that leads nowhere still does. -/
theorem idle_withoutRedeclared {trail : List TypeKey} {base : TypeExpr}
    (described : source.lookup key = some (.record r))
    (idle : ∀ k args p, ¬source.Leads trail base k args p) :
    ∀ k args p, ¬(source.withoutRedeclared key r).Leads trail base k args p := by
  intro k args p leads
  by_cases hk : k = key
  · exact idle k args r ⟨leads.named, leads.fresh, hk ▸ described⟩
  · exact idle k args p ((leads_withoutRedeclared hk).mp leads)

/-! ## Ways through the bases -/

/-- A described record and a key that one of its bases refers to. -/
def Extends (source : Registry) (k k' : TypeKey) : Prop :=
  ∃ r base args, source.lookup k = some (.record r) ∧ base ∈ r.bases ∧
    base.unwrapped = .named k' args

/-- A base brings the same in two registries and under two trails that agree on every key that it
leads to. -/
theorem branch_congr {trail trail' : List TypeKey} {scope : Scope} {base : TypeExpr}
    (agree : ∀ k args k', base.unwrapped = .named k args →
      Relation.ReflTransGen (Extends source) k k' →
      (k' ∈ trail ↔ k' ∈ trail') ∧ (k' ∈ trail ∨ source.lookup k' = source'.lookup k')) :
    source.branch trail scope base = source'.branch trail' scope base := by
  rcases source.leads_cases trail base with ⟨k, args, p, leads⟩ | idle
  · obtain ⟨trails, lookups⟩ := agree k args k leads.named .refl
    have same := lookups.resolve_left leads.fresh
    have leads' : source'.Leads trail' base k args p :=
      ⟨leads.named, fun h => leads.fresh (trails.mpr h), same ▸ leads.lookup⟩
    rw [branch_of_leads leads, branch_of_leads leads']
    congr 1
    refine List.flatMap_congr fun base' hbase => branch_congr fun k' args' k'' named' path => ?_
    have step : Extends source k k' := ⟨p, base', args', leads.lookup, hbase, named'⟩
    obtain ⟨trails', lookups'⟩ := agree k args k'' leads.named (.head step path)
    exact ⟨by simp only [List.mem_cons, trails'], lookups'.imp_left (.tail _)⟩
  · have idle' : ∀ k args p, ¬source'.Leads trail' base k args p := by
      intro k args p leads'
      obtain ⟨trails, lookups⟩ := agree k args k leads'.named .refl
      have fresh : k ∉ trail := fun h => leads'.fresh (trails.mp h)
      exact idle k args p ⟨leads'.named, fresh, (lookups.resolve_left fresh).trans leads'.lookup⟩
    rw [branch_of_idle idle, branch_of_idle idle']
termination_by source.unvisited trail
decreasing_by exact leads.unvisited_lt

/-- What a base brings keeps the `self` of the heir. -/
theorem this_of_mem_branch {trail : List TypeKey} {scope : Scope} {base : TypeExpr}
    {p : RecordDef × Scope} (h : p ∈ source.branch trail scope base) : p.2.this = scope.this := by
  rcases source.leads_cases trail base with ⟨k, args, r, leads⟩ | idle
  · rw [branch_of_leads leads] at h
    rcases List.mem_cons.mp h with rfl | h
    · rfl
    · obtain ⟨base', _, h⟩ := List.mem_flatMap.mp h
      exact (this_of_mem_branch h :)
  · rw [branch_of_idle idle] at h
    cases h
termination_by source.unvisited trail
decreasing_by exact leads.unvisited_lt

/-! ## Fields that the bases give back -/

/-- The second field may stand for the first: it has the same presence and a type expression that
means the same. -/
structure Restates (p p' : FieldDef × Scope) : Prop where
  presence : p'.1.isOptional = p.1.isOptional
  type : p'.1.type = p.1.type
  this : p'.2.this = p.2.this
  meaning : p'.2.substitute p.1.type = p.2.substitute p.1.type

theorem Restates.refl (p : FieldDef × Scope) : Restates p p := ⟨rfl, rfl, rfl, rfl⟩

theorem rel_restates_refl (o : Option (FieldDef × Scope)) : Option.Rel Restates o o := by
  cases o with
  | none => exact .none
  | some p => exact .some (.refl p)

/-- The bases of the record give back each field that the declaration leaves out, whatever its
parameters and `self` are. -/
structure GivesBack (source : Registry) (key : TypeKey) (r : RecordDef) : Prop where
  described : source.lookup key = some (.record r)
  /-- The record does not inherit from itself. -/
  acyclic : ¬Relation.TransGen (Extends source) key key
  /-- No field that is kept has the name of one that is left out. -/
  unrepeated : ∀ f ∈ r.fields, r.isInherited source f = true → ∀ g ∈ r.ownFields source,
    g.name ≠ f.name
  given : ∀ f ∈ r.fields, r.isInherited source f = true →
    ∀ (args : List ClosedType) (this : Option ClosedType),
      let inside : Scope := ⟨Entries.ofList (r.typeParams.zip args), this⟩
      ∃ g inner, source.inheritedField inside r f.name = some (g, inner) ∧
        g.isOptional = f.isOptional ∧ g.type = f.type ∧
        inner.substitute f.type = inside.substitute f.type

namespace GivesBack

/-- Above the record both registries bring the same, whatever led to the record. -/
theorem branch_eq (h : GivesBack source key r)
    (others : ∀ k, k ≠ key → source.lookup k = source'.lookup k) {trail : List TypeKey}
    (leads : ∀ k ∈ trail, Relation.ReflTransGen (Extends source) k key) {scope : Scope}
    {base : TypeExpr} (hbase : base ∈ r.bases) :
    source.branch [] scope base = source'.branch trail scope base := by
  refine branch_congr fun k args k' named path => ?_
  have above : Relation.TransGen (Extends source) key k' :=
    .head' ⟨r, base, args, h.described, hbase, named⟩ path
  have fresh : k' ∉ trail := fun hk => h.acyclic (above.trans_left (leads k' hk))
  refine ⟨⟨fun hk => (by cases hk), fun hk => absurd hk fresh⟩, .inr (others k' ?_)⟩
  rintro rfl
  exact h.acyclic above

/-- A field that comes first and is kept is still the first one. -/
theorem find?_ownFields {name : String} {f : FieldDef}
    (first : r.fields.find? (·.name = name) = some f) (kept : r.isInherited source f = false) :
    (r.ownFields source).find? (·.name = name) = some f := by
  obtain ⟨hname, before, after, heq, hbefore⟩ := List.find?_eq_some_iff_append.mp first
  rw [RecordDef.ownFields, heq, List.filter_append, List.find?_append]
  have passed : (before.filter fun f => !r.isInherited source f).find? (·.name = name) = none :=
    List.find?_eq_none.mpr fun g hg => by simpa using hbefore g (List.mem_filter.mp hg).1
  rw [passed, Option.none_or, List.filter_cons_of_pos (by rw [kept]; rfl)]
  exact List.find?_cons_of_pos hname

/-- Without its redeclared fields the record has a field of each name that may stand for the one it
had. -/
theorem own_rel (h : GivesBack source key r) (args : List ClosedType) (this : Option ClosedType)
    (name : String) :
    let inside : Scope := ⟨Entries.ofList (r.typeParams.zip args), this⟩
    let inherited := source.inheritedField inside r name
    Option.Rel Restates ((ownField name (r, inside)).or inherited)
      ((ownField name ({ r with fields := r.ownFields source }, inside)).or inherited) := by
  intro inside inherited
  unfold ownField
  cases first : r.fields.find? (·.name = name) with
  | none =>
    have none_kept : (r.ownFields source).find? (·.name = name) = none :=
      List.find?_eq_none.mpr fun g hg =>
        List.find?_eq_none.mp first g (List.mem_filter.mp hg).1
    rw [none_kept]
    exact rel_restates_refl _
  | some f =>
    have mem := List.mem_of_find?_eq_some first
    have hname : f.name = name := by simpa using List.find?_some first
    cases left_out : r.isInherited source f with
    | false =>
      rw [find?_ownFields first left_out]
      exact rel_restates_refl _
    | true =>
      have none_kept : (r.ownFields source).find? (·.name = name) = none :=
        List.find?_eq_none.mpr fun g hg hg' =>
          h.unrepeated f mem left_out g hg ((of_decide_eq_true hg').trans hname.symm)
      obtain ⟨g, inner, hg, presence, type, meaning⟩ := h.given f mem left_out args this
      rw [hname] at hg
      rw [none_kept]
      show Option.Rel Restates (some (f, inside)) inherited
      rw [show inherited = some (g, inner) from hg]
      obtain ⟨p, hp, hfound⟩ := List.exists_of_findSome?_eq_some hg
      obtain ⟨base, _, hp⟩ := List.mem_flatMap.mp hp
      have hthis : inner.this = this := by
        rw [(name_of_ownField hfound).2]
        exact this_of_mem_branch hp
      exact .some ⟨presence, type, hthis, meaning⟩

/-- The first field of a name, whatever record a base leads to. -/
theorem branch_rel (h : GivesBack source key r) {trail : List TypeKey} {scope : Scope}
    {base : TypeExpr} (name : String)
    (path : ∀ k ∈ trail, ∀ k' args, base.unwrapped = .named k' args →
      Relation.ReflTransGen (Extends source) k k') :
    Option.Rel Restates ((source.branch trail scope base).findSome? (ownField name))
      (((source.withoutRedeclared key r).branch trail scope base).findSome? (ownField name)) := by
  rcases source.leads_cases trail base with ⟨k, args, p, leads⟩ | idle
  · by_cases hk : k = key
    · -- the record itself: above it nothing has changed
      subst hk
      cases leads.lookup.symm.trans h.described
      have leads' : (source.withoutRedeclared k r).Leads trail base k args _ :=
        ⟨leads.named, leads.fresh, lookup_withoutRedeclared⟩
      have trailed : ∀ k' ∈ k :: trail, Relation.ReflTransGen (Extends source) k' k := by
        intro k' hk'
        rcases List.mem_cons.mp hk' with rfl | hk'
        · exact .refl
        · exact path k' hk' k args leads.named
      have before : r.bases.flatMap (source.branch (k :: trail) (inheritScope scope r args)) =
          r.bases.flatMap (source.branch [] (inheritScope scope r args)) :=
        List.flatMap_congr fun b hb => (h.branch_eq (fun _ _ => rfl) trailed hb).symm
      have after : r.bases.flatMap ((source.withoutRedeclared k r).branch (k :: trail)
            (inheritScope scope r args)) =
          r.bases.flatMap (source.branch [] (inheritScope scope r args)) := by
        refine List.flatMap_congr fun b hb => (h.branch_eq ?_ trailed hb).symm
        exact fun k' hk' => (lookup_withoutRedeclared_of_ne hk').symm
      rw [branch_of_leads leads, branch_of_leads leads', findSome?_cons_eq_or,
        findSome?_cons_eq_or, before]
      show Option.Rel Restates
        ((ownField name (r, inheritScope scope r args)).or
          ((r.bases.flatMap (source.branch [] (inheritScope scope r args))).findSome?
            (ownField name)))
        ((ownField name ({ r with fields := r.ownFields source }, inheritScope scope r args)).or
          ((r.bases.flatMap ((source.withoutRedeclared k r).branch (k :: trail)
            (inheritScope scope r args))).findSome? (ownField name)))
      rw [after]
      exact h.own_rel (args.map scope.close) scope.this name
    · rw [branch_of_leads leads, branch_of_leads ((leads_withoutRedeclared hk).mpr leads),
        findSome?_cons_eq_or, findSome?_cons_eq_or]
      have bases : Option.Rel Restates
          ((p.bases.flatMap (source.branch (k :: trail) (inheritScope scope p args))).findSome?
            (ownField name))
          ((p.bases.flatMap ((source.withoutRedeclared key r).branch (k :: trail)
            (inheritScope scope p args))).findSome? (ownField name)) := by
        rw [findSome?_flatMap, findSome?_flatMap]
        refine findSome?_rel (R := fun b b' => b' = b ∧ b ∈ p.bases)
          (List.forall₂_same.mpr fun b hb => ⟨rfl, hb⟩) ?_
        rintro _ base' ⟨rfl, hbase⟩
        refine h.branch_rel name fun k₀ hk₀ k' args' named' => ?_
        have step : Extends source k k' := ⟨p, base', args', leads.lookup, hbase, named'⟩
        rcases List.mem_cons.mp hk₀ with rfl | hk₀
        · exact .single step
        · exact (path k₀ hk₀ k args leads.named).tail step
      cases ownField name (p, inheritScope scope p args) with
      | none => exact bases
      | some q => exact .some (.refl q)
  · rw [branch_of_idle idle, branch_of_idle (idle_withoutRedeclared h.described idle)]
    exact .none
termination_by source.unvisited trail
decreasing_by exact leads.unvisited_lt

/-- What the fields do not matter to is found alike. -/
theorem branch_findSome? (h : GivesBack source key r) {β : Type}
    {pick : RecordDef × Scope → Option β} {trail : List TypeKey} {scope : Scope} {base : TypeExpr}
    (same : ∀ scope, pick ({ r with fields := r.ownFields source }, scope) = pick (r, scope)) :
    ((source.withoutRedeclared key r).branch trail scope base).findSome? pick =
      (source.branch trail scope base).findSome? pick := by
  rcases source.leads_cases trail base with ⟨k, args, p, leads⟩ | idle
  · have bases : ∀ inner,
        (p.bases.flatMap ((source.withoutRedeclared key r).branch (k :: trail) inner)).findSome?
            pick = (p.bases.flatMap (source.branch (k :: trail) inner)).findSome? pick := by
      intro inner
      rw [findSome?_flatMap, findSome?_flatMap]
      exact congrArg (p.bases.findSome? ·) (funext fun base' => h.branch_findSome? same)
    by_cases hk : k = key
    · subst hk
      cases leads.lookup.symm.trans h.described
      have leads' : (source.withoutRedeclared k r).Leads trail base k args _ :=
        ⟨leads.named, leads.fresh, lookup_withoutRedeclared⟩
      rw [branch_of_leads leads, branch_of_leads leads', findSome?_cons_eq_or,
        findSome?_cons_eq_or, same]
      exact congrArg _ (bases _)
    · rw [branch_of_leads leads, branch_of_leads ((leads_withoutRedeclared hk).mpr leads),
        findSome?_cons_eq_or, findSome?_cons_eq_or, bases]
  · rw [branch_of_idle idle, branch_of_idle (idle_withoutRedeclared h.described idle)]
termination_by source.unvisited trail
decreasing_by exact leads.unvisited_lt

/-- Each described record is still described, with the same parameters, fields that may stand for
its fields, and the same further members. -/
theorem record_rel (h : GivesBack source key r) {k : TypeKey} {q : RecordDef}
    (lookup : source.lookup k = some (.record q)) :
    ∃ q', (source.withoutRedeclared key r).lookup k = some (.record q') ∧
      q'.typeParams = q.typeParams ∧
      ∀ (args : List ClosedType) (this : Option ClosedType),
        let inside : Scope := ⟨Entries.ofList (q.typeParams.zip args), this⟩
        (∀ name, Option.Rel Restates (source.fieldOf inside q name)
          ((source.withoutRedeclared key r).fieldOf inside q' name)) ∧
        (source.withoutRedeclared key r).extraOf inside q' = source.extraOf inside q := by
  have extras : ∀ inside,
      (q.bases.flatMap ((source.withoutRedeclared key r).branch [] inside)).findSome?
        (fun p => p.1.extra.map (·, p.2)) =
      (q.bases.flatMap (source.branch [] inside)).findSome? (fun p => p.1.extra.map (·, p.2)) := by
    intro inside
    rw [findSome?_flatMap, findSome?_flatMap]
    exact congrArg (q.bases.findSome? ·) (funext fun base => h.branch_findSome? fun _ => rfl)
  by_cases hk : k = key
  · subst hk
    cases lookup.symm.trans h.described
    refine ⟨_, lookup_withoutRedeclared, rfl, fun args this => ⟨fun name => ?_, ?_⟩⟩
    · have above : (source.withoutRedeclared k r).inheritedField
            ⟨Entries.ofList (r.typeParams.zip args), this⟩
            { r with fields := r.ownFields source } name =
          source.inheritedField ⟨Entries.ofList (r.typeParams.zip args), this⟩ r name := by
        unfold inheritedField
        refine congrArg (List.findSome? _) (List.flatMap_congr fun b hb => Eq.symm ?_)
        refine h.branch_eq (fun k hk => (lookup_withoutRedeclared_of_ne hk).symm) ?_ hb
        exact fun k hk => by cases hk
      rw [fieldOf, fieldOf, above]
      exact h.own_rel args this name
    · unfold extraOf heritage
      rw [findSome?_cons_eq_or, findSome?_cons_eq_or]
      exact congrArg _ (extras _)
  · refine ⟨q, (lookup_withoutRedeclared_of_ne hk).trans lookup, rfl, fun args this => ⟨?_, ?_⟩⟩
    · intro name
      have above : Option.Rel Restates
          (source.inheritedField ⟨Entries.ofList (q.typeParams.zip args), this⟩ q name)
          ((source.withoutRedeclared key r).inheritedField
            ⟨Entries.ofList (q.typeParams.zip args), this⟩ q name) := by
        unfold inheritedField
        rw [findSome?_flatMap, findSome?_flatMap]
        refine findSome?_rel (R := fun b b' => b' = b)
          (List.forall₂_same.mpr fun b hb => rfl) ?_
        rintro _ base rfl
        exact h.branch_rel name fun k hk => by cases hk
      rw [fieldOf, fieldOf]
      cases ownField name (q, ⟨Entries.ofList (q.typeParams.zip args), this⟩) with
      | none => exact above
      | some p => exact .some (.refl p)
    · unfold extraOf heritage
      rw [findSome?_cons_eq_or, findSome?_cons_eq_or, extras]

end GivesBack

/-! ## The check -/

/-- References to records are checked alike when the fields of one may stand for those of the other,
further members are the same, and so are the verdicts about smaller values. -/
theorem check_record_congr {scope scope' : Scope} {left : Nat} {k : TypeKey} {args : List TypeExpr}
    {q q' : RecordDef} {value : Json} (lookup : source.lookup k = some (.record q))
    (lookup' : source'.lookup k = some (.record q'))
    (fields : ∀ name, Option.Rel Restates
      (source.fieldOf (scope.enterRecord k q.typeParams args) q name)
      (source'.fieldOf (scope'.enterRecord k q'.typeParams args) q' name))
    (extra : source'.extraOf (scope'.enterRecord k q'.typeParams args) q' =
      source.extraOf (scope.enterRecord k q.typeParams args) q)
    (smaller : ∀ (s s' : Scope) (t : TypeExpr) (item : Json), item.size < value.size →
      s'.this = s.this → s'.substitute t = s.substitute t →
      (source'.check s' expansionLimit t item = [] ↔ source.check s expansionLimit t item = [])) :
    source'.check scope' (left + 1) (.named k args) value = [] ↔
      source.check scope (left + 1) (.named k args) value = [] := by
  rw [check_record_eq_nil lookup, check_record_eq_nil lookup']
  refine exists_congr fun members => and_congr_right ?_
  rintro rfl
  have verdict : ∀ {p p' : FieldDef × Scope}, Restates p p' → ∀ item : Json,
      item.size < (Json.object members).size →
      (source'.check p'.2 expansionLimit p'.1.type item = [] ↔
        source.check p.2 expansionLimit p.1.type item = []) := by
    intro p p' restates item hlt
    rw [restates.type]
    exact smaller _ _ _ item hlt restates.this restates.meaning
  refine and_congr ?_ (and_congr ?_ ?_)
  · -- the fields that are there
    constructor
    · intro present name f inner item hfield hitem
      obtain ⟨⟨g, inner'⟩, hfield', restates⟩ := rel_some_left (hfield ▸ fields name)
      exact (verdict restates item (Json.size_lt_of_find? hitem)).mp
        (present name g inner' item hfield' hitem)
    · intro present name g inner' item hfield' hitem
      obtain ⟨⟨f, inner⟩, hfield, restates⟩ := rel_some_right (hfield' ▸ fields name)
      exact (verdict restates item (Json.size_lt_of_find? hitem)).mpr
        (present name f inner item hfield hitem)
  · -- the fields that are missing
    constructor
    · intro missing name f inner hfield hnone
      obtain ⟨⟨g, inner'⟩, hfield', restates⟩ := rel_some_left (hfield ▸ fields name)
      exact restates.presence.symm.trans (missing name g inner' hfield' hnone)
    · intro missing name g inner' hfield' hnone
      obtain ⟨⟨f, inner⟩, hfield, restates⟩ := rel_some_right (hfield' ▸ fields name)
      exact restates.presence.trans (missing name f inner hfield hnone)
  · -- the members that are no field
    refine forall₃_congr fun name item hmem => ?_
    have unknown : source'.fieldOf (scope'.enterRecord k q'.typeParams args) q' name = none ↔
        source.fieldOf (scope.enterRecord k q.typeParams args) q name = none :=
      ⟨fun hnone => rel_none_right (hnone ▸ fields name),
        fun hnone => rel_none_left (hnone ▸ fields name)⟩
    rw [unknown, extra]
    refine imp_congr_right fun _ => exists_congr fun p => and_congr_right fun _ => ?_
    exact smaller _ _ _ item (Json.size_lt_of_mem_object hmem) rfl rfl

/-- Nothing changes in the check when the redeclared fields are gone, nor when the scope is replaced
by one in which the type means the same. -/
theorem check_withoutRedeclared (h : GivesBack source key r) (scope : Scope) (left : Nat)
    (t : TypeExpr) (value : Json) :
    ∀ scope' : Scope, scope'.this = scope.this → scope'.substitute t = scope.substitute t →
      ((source.withoutRedeclared key r).check scope' left t value = [] ↔
        source.check scope left t value = []) := by
  refine check_induction (motive := fun scope left t value =>
    ∀ scope' : Scope, scope'.this = scope.this → scope'.substitute t = scope.substitute t →
      ((source.withoutRedeclared key r).check scope' left t value = [] ↔
        source.check scope left t value = [])) ?_ scope left t value
  intro scope left t value smaller fewer closed part scope' this meaning
  -- a closed type, one expansion further
  have further : ∀ c : ClosedType, t.isClosed = false →
      ((source.withoutRedeclared key r).check scope' (left - 1) c.1 value = [] ↔
        source.check scope (left - 1) c.1 value = []) := by
    intro c open_
    refine closed _ c (Nat.sub_le _ _) open_ scope' this ?_
    rw [Scope.substitute_of_closed _ _ c.2, Scope.substitute_of_closed _ _ c.2]
  cases t with
  | self =>
    cases hthis : scope.this with
    | none => rw [check_self_of_none hthis, check_self_of_none (this.trans hthis)]
    | some c =>
      rw [check_self_of_some hthis, check_self_of_some (this.trans hthis)]
      exact further c rfl
  | var name =>
    rw [Scope.substitute, Scope.substitute, Scope.meaning, Scope.meaning] at meaning
    -- a parameter bound to `any` means the same as one that is not bound
    cases hbound : scope.bindings.find? name with
    | none =>
      rw [hbound] at meaning
      rw [check_var_of_none hbound]
      cases hbound' : scope'.bindings.find? name with
      | none => rw [check_var_of_none hbound']
      | some c =>
        rw [hbound'] at meaning
        rw [check_var_of_some hbound', show c.1 = .any from meaning, check_any]
    | some c =>
      rw [hbound] at meaning
      rw [check_var_of_some hbound]
      cases hbound' : scope'.bindings.find? name with
      | none =>
        rw [hbound'] at meaning
        rw [check_var_of_none hbound', ← show TypeExpr.any = c.1 from meaning, check_any]
      | some c' =>
        rw [hbound'] at meaning
        rw [check_var_of_some hbound', show c'.1 = c.1 from meaning]
        exact further c rfl
  | named k args =>
    rw [Scope.substitute, Scope.substitute, Scope.substituteAll_eq_map,
      Scope.substituteAll_eq_map] at meaning
    have args_eq : args.map scope'.substitute = args.map scope.substitute := by
      injection meaning
    cases left with
    | zero => exact iff_of_false check_named_zero check_named_zero
    | succ left =>
      by_cases record : ∃ q, source.lookup k = some (.record q)
      · obtain ⟨q, lookup⟩ := record
        obtain ⟨q', lookup', params, rel⟩ := h.record_rel lookup
        obtain ⟨fields, extra⟩ := rel (args.map scope.close) (some (scope.close (.named k args)))
        have inside : scope'.enterRecord k q'.typeParams args =
            scope.enterRecord k q.typeParams args := by
          rw [params, Scope.enterRecord_congr args_eq]
        refine check_record_congr lookup lookup' ?_ ?_ ?_
        · rw [inside]
          exact fields
        · rw [inside]
          exact extra
        · exact fun s s' t item hlt => smaller s expansionLimit t item hlt s'
      · have hk : k ≠ key := fun hk => record ⟨r, hk ▸ h.described⟩
        have same : (source.withoutRedeclared key r).lookup k = source.lookup k :=
          lookup_withoutRedeclared_of_ne hk
        cases lookup : source.lookup k with
        | none => rw [check_undescribed lookup, check_undescribed (same.trans lookup)]
        | some d =>
          cases d with
          | opaqueType name =>
            rw [check_opaque_eq_nil lookup, check_opaque_eq_nil (same.trans lookup)]
          | aliased a =>
            rw [check_aliased lookup, check_aliased (same.trans lookup),
              Scope.enter_congr args_eq this]
            exact fewer _ _ _ (Nat.lt_succ_self _) _ rfl rfl
          | record q => exact absurd ⟨q, lookup⟩ record
  | required inner =>
    rw [Scope.substitute, Scope.substitute] at meaning
    rw [check_required, check_required]
    exact part left inner (Nat.le_refl _) .required scope' this (by injection meaning)
  | notRequired inner =>
    rw [Scope.substitute, Scope.substitute] at meaning
    rw [check_notRequired, check_notRequired]
    exact part left inner (Nat.le_refl _) .notRequired scope' this (by injection meaning)
  | documented doc inner =>
    rw [Scope.substitute, Scope.substitute] at meaning
    rw [check_documented, check_documented]
    exact part left inner (Nat.le_refl _) .documented scope' this (by injection meaning)
  | union members =>
    rw [Scope.substitute, Scope.substitute, Scope.substituteAll_eq_map,
      Scope.substituteAll_eq_map] at meaning
    have members_eq : members.map scope'.substitute = members.map scope.substitute := by
      injection meaning
    rw [check_union_eq_nil, check_union_eq_nil]
    refine exists_congr fun m => and_congr_right fun mem => ?_
    exact part _ m (Nat.sub_le _ _) (.union mem) scope' this
      (List.map_inj_left.mp members_eq m mem)
  | list element =>
    cases element with
    | none => rw [check_listAny_eq_nil, check_listAny_eq_nil]
    | some element =>
      rw [Scope.substitute, Scope.substitute, Scope.substituteOption,
        Scope.substituteOption] at meaning
      rw [check_list_eq_nil, check_list_eq_nil]
      refine exists_congr fun items => and_congr_right ?_
      rintro rfl
      refine forall₂_congr fun item hitem => ?_
      exact smaller _ _ _ item (Json.size_lt_of_mem_array hitem) scope' this
        (by injection meaning with h; injection h)
  | variadic element =>
    rw [Scope.substitute, Scope.substitute] at meaning
    rw [check_variadic_eq_nil, check_variadic_eq_nil]
    refine exists_congr fun items => and_congr_right ?_
    rintro rfl
    refine forall₂_congr fun item hitem => ?_
    exact smaller _ _ _ item (Json.size_lt_of_mem_array hitem) scope' this (by injection meaning)
  | tuple elements =>
    rw [Scope.substitute, Scope.substitute, Scope.substituteAll_eq_map,
      Scope.substituteAll_eq_map] at meaning
    have elements_eq : elements.map scope'.substitute = elements.map scope.substitute := by
      injection meaning
    rw [check_tuple_eq_nil, check_tuple_eq_nil]
    refine exists_congr fun items => and_congr_right ?_
    rintro rfl
    refine and_congr_right fun _ => forall₂_congr fun p hp => ?_
    have mem := List.of_mem_zip hp
    exact smaller _ _ _ p.2 (Json.size_lt_of_mem_array mem.2) scope' this
      (List.map_inj_left.mp elements_eq p.1 mem.1)
  | map key element =>
    rw [Scope.substitute, Scope.substitute, Scope.substituteOption_eq_map,
      Scope.substituteOption_eq_map, Scope.substituteOption_eq_map,
      Scope.substituteOption_eq_map] at meaning
    rw [check_map_eq_nil, check_map_eq_nil]
    refine exists_congr fun members => and_congr_right ?_
    rintro rfl
    refine forall₃_congr fun name item hmem => and_congr_right fun _ => and_congr ?_ ?_
    · refine forall₂_congr fun narrow hkey => ?_
      obtain ⟨t, rfl, rfl⟩ := unwrapped_of_keyType? hkey
      refine smaller _ _ _ _ (Json.key_size_lt_of_mem_object hmem) scope' this ?_
      exact Scope.substitute_unwrapped_congr (by injection meaning with h; injection h)
    · refine forall₂_congr fun t ht => ?_
      subst ht
      exact smaller _ _ _ item (Json.size_lt_of_mem_object hmem) scope' this
        (by injection meaning with _ h; injection h)
  | _ => simp only [check_string_eq_nil, check_number_eq_nil, check_integer_eq_nil,
      check_boolean_eq_nil, check_any, check_null_eq_nil, check_never_ne_nil,
      check_literal_eq_nil]

/-- Leaving redeclared fields out of a record changes none of its values, for any arguments, as long
as the bases give these fields back. -/
theorem findings_withoutRedeclared (source : Registry) (key : TypeKey) (r : RecordDef)
    (args : List TypeExpr) (value : Json) (h : GivesBack source key r) :
    source.findings (.named key args) value = [] ↔
      (source.withoutRedeclared key r).findings (.named key args) value = [] :=
  (check_withoutRedeclared h .empty expansionLimit (.named key args) value _ rfl rfl).symm

/-! ## A base with a parameter -/

/-- A record with one field, of the type of its parameter. -/
def holderDef : RecordDef :=
  { name := "Holder", typeParams := ["T"], fields := [{ name := "value", type := .var "T" }] }

/-- An heir of the record for some argument, that declares the field again. -/
def heirDef (a : TypeExpr) : RecordDef :=
  { name := "Heir", typeParams := ["T"], bases := [.named "Holder" [a]]
    fields := [{ name := "value", type := .var "T" }] }

/-- The record and its heir. -/
def holders (a : TypeExpr) : Registry :=
  ⟨[("Holder", .record holderDef), ("Heir", .record (heirDef a))], []⟩

theorem inheritedField_heirDef {a : TypeExpr} {scope : Scope} {r : RecordDef} {name : String}
    (described : source.lookup "Holder" = some (.record holderDef))
    (bases : r.bases = [.named "Holder" [a]]) :
    source.inheritedField scope r name =
      ownField name (holderDef, inheritScope scope holderDef [a]) := by
  rw [inheritedField, bases, List.flatMap_singleton,
    branch_of_leads ⟨rfl, List.not_mem_nil, described⟩]
  show List.findSome? _ [(holderDef, inheritScope scope holderDef [a])] = _
  rw [findSome?_cons_eq_or, List.findSome?_nil, Option.or_none]

theorem ownFields_heirDef (a : TypeExpr) : (heirDef a).ownFields (holders a) = [] := by
  have above : (holders a).ancestry (fun _ _ _ => ()) (heirDef a) () = [(holderDef, ())] := by
    show (holders a).ancestryFrom _ [(.named "Holder" [a], ())] [] = _
    rw [ancestryFrom_of_leads (r := holderDef) ⟨rfl, List.not_mem_nil, rfl⟩]
    show (holderDef, ()) :: (holders a).ancestryFrom _ [] _ = _
    rw [ancestryFrom]
  have inherited : (heirDef a).isInherited (holders a) { name := "value", type := .var "T" } =
      true := by
    rw [RecordDef.isInherited, RecordDef.inheritedTypes, above]
    decide
  rw [RecordDef.ownFields]
  refine List.filter_eq_nil_iff.mpr fun f hf => ?_
  obtain rfl := List.mem_singleton.mp hf
  rw [inherited]
  decide

theorem extends_holders {a : TypeExpr} {k k' : TypeKey} (h : Extends (holders a) k k') :
    k = "Heir" ∧ k' = "Holder" := by
  obtain ⟨r, base, args, described, hbase, named⟩ := h
  unfold Registry.lookup holders Entries.find? at described
  rw [List.lookup_cons, List.lookup_cons] at described
  split at described
  · cases described
    cases hbase
  · split at described
    · rename_i hk
      cases described
      obtain rfl := List.mem_singleton.mp hbase
      cases named
      exact ⟨eq_of_beq hk, rfl⟩
    · cases described

/-- An heir for its own parameter gets the field back. -/
theorem givesBack_heirDef : GivesBack (holders (.var "T")) "Heir" (heirDef (.var "T")) where
  described := rfl
  acyclic h := by
    obtain ⟨k, step, path⟩ := Relation.TransGen.head'_iff.mp h
    obtain ⟨_, rfl⟩ := extends_holders step
    rcases path.cases_head with heq | ⟨k, step, _⟩
    · exact absurd heq (by decide)
    · exact absurd (extends_holders step).1 (by decide)
  unrepeated f _ _ g hg := by
    rw [ownFields_heirDef] at hg
    cases hg
  given f hf _ args this := by
    obtain rfl := List.mem_singleton.mp hf
    refine ⟨_, _, inheritedField_heirDef rfl rfl, rfl, rfl, ?_⟩
    -- inside the base the parameter is bound to what it means in the heir
    rfl

theorem findings_withoutRedeclared_heirDef :
    (holders (.var "T")).findings (.named "Heir" [.boolean]) (.object [("value", .bool true)]) =
        [] ↔
      ((holders (.var "T")).withoutRedeclared "Heir" (heirDef (.var "T"))).findings
        (.named "Heir" [.boolean]) (.object [("value", .bool true)]) = [] :=
  findings_withoutRedeclared _ "Heir" (heirDef (.var "T")) [.boolean] _ givesBack_heirDef

/-- The condition is needed. An heir for texts, with a field of the type of its own parameter, is
declared without this field, and its base then asks for a text. -/
theorem not_findings_withoutRedeclared :
    ¬∀ (source : Registry) (key : TypeKey) (r : RecordDef) (args : List TypeExpr) (value : Json),
      source.lookup key = some (.record r) →
      (source.findings (.named key args) value = [] ↔
        (source.withoutRedeclared key r).findings (.named key args) value = []) := by
  intro h
  have agree := h (holders .string) "Heir" (heirDef .string) [.boolean]
    (.object [("value", .bool true)]) rfl
  have own : ∀ scope name, (holders .string).fieldOf scope (heirDef .string) name =
      if "value" = name then some ({ name := "value", type := .var "T" }, scope) else none := by
    intro scope name
    rw [fieldOf, inheritedField_heirDef rfl rfl]
    by_cases hname : "value" = name <;> simp [ownField, heirDef, holderDef, hname]
  have accepted : (holders .string).check .empty (63 + 1) (.named "Heir" [.boolean])
      (.object [("value", .bool true)]) = [] := by
    refine (check_record_eq_nil (r := heirDef .string) rfl).mpr ⟨_, rfl, ?_, ?_, ?_⟩
    · intro name f inner item hfield hitem
      rw [own] at hfield
      split at hfield
      · rename_i hname
        cases hname
        cases hfield
        cases hitem
        rw [check_var_of_some rfl]
        exact check_boolean_eq_nil.mpr rfl
      · cases hfield
    · intro name f inner hfield hnone
      rw [own] at hfield
      split at hfield
      · rename_i hname
        cases hname
        cases hnone
      · cases hfield
    · intro name item hmem hfield
      cases List.mem_singleton.mp hmem
      rw [own] at hfield
      cases hfield
  have rejected : ((holders .string).withoutRedeclared "Heir" (heirDef .string)).check .empty
      (63 + 1) (.named "Heir" [.boolean]) (.object [("value", .bool true)]) = [] :=
    agree.mp accepted
  obtain ⟨members, heq, present, _, _⟩ :=
    (check_record_eq_nil lookup_withoutRedeclared).mp rejected
  cases heq
  have above : ∀ scope, ((holders .string).withoutRedeclared "Heir" (heirDef .string)).fieldOf scope
      { heirDef .string with fields := (heirDef .string).ownFields (holders .string) } "value" =
        some ({ name := "value", type := .var "T" }, inheritScope scope holderDef [.string]) := by
    intro scope
    rw [fieldOf, inheritedField_heirDef rfl rfl, ownFields_heirDef]
    rfl
  have asks := present "value" _ _ _ (above _) rfl
  rw [check_var_of_some rfl] at asks
  cases check_string_eq_nil.mp asks

end Registry

end SchemaDialogue
