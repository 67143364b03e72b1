import SchemaDialogue.Proofs.Expansion
import SchemaDialogue.Proofs.Instantiate
import SchemaDialogue.Proofs.Renaming

/-!
# Generic types are their instances

`TypeDef.instantiate` is the plain copy of a generic definition in which the arguments stand in the
place of the parameters. A reference to the definition with these arguments has the values of the
copy (`Registry.findings_instantiate`).

The two differ in three ways, each with its part of the proof:

* **parameters** are looked up in one and written out in the other: `Conforms.instantiate`;
* **`self`** is the reference in one and the copy in the other, and travels from there into the
  arguments of everything that is referred to: the relation `Alike`;
* **inherited fields** belong to the bases, which are the same but for their arguments:
  `branch_rel`.
-/

namespace SchemaDialogue

/-- A field with arguments in the place of type parameters. -/
def FieldDef.instantiate (argument : String → Option TypeExpr) (f : FieldDef) : FieldDef :=
  { f with type := f.type.instantiate argument }

/-- What stands in the place of a type parameter: its argument, `any` where there is none, and of
parameters with one name the last counts. -/
def argumentOf (params : List String) (args : List TypeExpr) (name : String) : Option TypeExpr :=
  if name ∈ params then some ((Entries.find? (Entries.ofList (params.zip args)) name).getD .any)
  else none

/-- The copy of a definition without type parameters, the arguments in their place. -/
def TypeDef.instantiate (args : List TypeExpr) : TypeDef → TypeDef
  | .record r =>
    let argument := argumentOf r.typeParams args
    .record { r with
      typeParams := []
      bases := r.bases.map (TypeExpr.instantiate argument)
      fields := r.fields.map (FieldDef.instantiate argument)
      extra := r.extra.map (TypeExpr.instantiate argument) }
  | .aliased a =>
    .aliased { a with
      typeParams := []
      target := a.target.instantiate (argumentOf a.typeParams args) }
  | .opaqueType name => .opaqueType name

/-- A definition that can be copied under a second key, for closed arguments. -/
structure Copyable (source : Registry) (key : TypeKey) (args : List TypeExpr) (copy : TypeKey)
    (definition : TypeDef) : Prop where
  described : source.lookup key = some definition
  closed : ∀ a ∈ args, a.isClosed = true
  /-- The second key is new. -/
  fresh : source.lookup copy = none
  unused : ∀ k d, source.lookup k = some d → ∀ t ∈ d.types, t.Avoids copy
  unusedArgs : ∀ a ∈ args, a.Avoids copy
  /-- No parameter stands as the key type of a map. -/
  plainKeys : ∀ t ∈ definition.types, t.PlainKeys
  /-- No parameter stands as a base. -/
  plainBases : ∀ r, definition = .record r → ∀ base ∈ r.bases, ∀ name, base.unwrapped ≠ .var name

/-- No field of the definition is made optional or required by an argument in the place of its
type. -/
def KeepsPresence (args : List TypeExpr) (definition : TypeDef) : Prop :=
  ∀ r, definition = .record r → ∀ f ∈ r.fields,
    (f.instantiate (argumentOf r.typeParams args)).isOptional = f.isOptional

/-- Inside the definition the parameters are bound to what stands in their place in the copy. -/
theorem binds_argumentOf {args : List TypeExpr} (closed : ∀ a ∈ args, a.isClosed = true)
    (scope : Scope) (params : List String) :
    Binds (scope.bind params args) (argumentOf params args) := by
  intro name
  have written : List.Forall₂ (fun (a : TypeExpr) (c : ClosedType) => c.1 = a) args
      (args.map scope.close) := by
    rw [List.forall₂_map_right_iff, List.forall₂_same]
    exact fun a ha => scope.substitute_of_closed a (closed a ha)
  have found : Option.Rel (fun (a : TypeExpr) (c : ClosedType) => c.1 = a)
      (Entries.find? (Entries.ofList (params.zip args)) name)
      (Entries.find? (scope.bind params args) name) :=
    Entries.find?_ofList_rel (Entries.forall₂_zip written params) name
  unfold argumentOf
  revert found
  cases hbound : Entries.find? (scope.bind params args) name with
  | none =>
    intro found
    cases hargument : Entries.find? (Entries.ofList (params.zip args)) name with
    | some a =>
      rw [hargument] at found
      cases found
    | none =>
      by_cases hname : name ∈ params
      · exact .inr (by rw [if_pos hname]; rfl)
      · exact .inl (if_neg hname)
  | some bound =>
    intro found
    cases hargument : Entries.find? (Entries.ofList (params.zip args)) name with
    | none =>
      rw [hargument] at found
      cases found
    | some a =>
      rw [hargument] at found
      cases found with
      | some heq =>
        have hname : name ∈ params := (List.of_mem_zip (Entries.mem_of_find?_ofList hargument)).1
        rw [if_pos hname, Option.getD_some]
        exact congrArg some heq.symm

namespace Alike

variable {key copy k k' : TypeKey} {args as as' : List TypeExpr} {t t' : TypeExpr}

theorem exists_named (h : Alike key args copy (.named k as) t') : ∃ k' as', t' = .named k' as' := by
  cases h with
  | swap => exact ⟨_, _, rfl⟩
  | named => exact ⟨_, _, rfl⟩

theorem exists_named' (h : Alike key args copy t (.named k' as')) : ∃ k as, t = .named k as := by
  cases h with
  | swap => exact ⟨_, _, rfl⟩
  | named => exact ⟨_, _, rfl⟩

end Alike

/-- Instances mention the second key only if an argument does. -/
theorem TypeExpr.Avoids.instantiate {argument : String → Option TypeExpr} {copy : TypeKey}
    (arguments : ∀ name a, argument name = some a → a.Avoids copy) (t : TypeExpr)
    (h : t.Avoids copy) : (t.instantiate argument).Avoids copy := by
  induction t using TypeExpr.induction with
  | var name =>
    rw [TypeExpr.instantiate]
    cases hname : argument name with
    | none => exact h
    | some a => exact arguments name a hname
  | named k as ih =>
    rw [TypeExpr.instantiate, TypeExpr.instantiateAll_eq_map]
    intro args part
    cases part with
    | refl => exact h as .refl
    | named mem part =>
      obtain ⟨a, ha, rfl⟩ := List.mem_map.mp mem
      exact ih a ha (h.part (.named ha .refl)) args part
  | list element ih =>
    intro args part
    cases element with
    | none => cases part
    | some t =>
      cases part with
      | list part => exact ih t rfl (h.part (.list .refl)) args part
  | map key value ihk ihv =>
    rw [TypeExpr.instantiate, TypeExpr.instantiateOption_eq_map,
      TypeExpr.instantiateOption_eq_map]
    intro args part
    cases key <;> cases value <;> cases part
    · exact ihv _ rfl (h.part (.value .refl)) args ‹_›
    · exact ihk _ rfl (h.part (.key .refl)) args ‹_›
    · exact ihk _ rfl (h.part (.key .refl)) args ‹_›
    · exact ihv _ rfl (h.part (.value .refl)) args ‹_›
  | tuple ts ih =>
    rw [TypeExpr.instantiate, TypeExpr.instantiateAll_eq_map]
    intro args part
    cases part with
    | tuple mem part =>
      obtain ⟨t, ht, rfl⟩ := List.mem_map.mp mem
      exact ih t ht (h.part (.tuple ht .refl)) args part
  | union ts ih =>
    rw [TypeExpr.instantiate, TypeExpr.instantiateAll_eq_map]
    intro args part
    cases part with
    | union mem part =>
      obtain ⟨t, ht, rfl⟩ := List.mem_map.mp mem
      exact ih t ht (h.part (.union ht .refl)) args part
  | variadic t ih =>
    intro args part
    cases part with
    | variadic part => exact ih (h.part (.variadic .refl)) args part
  | required t ih =>
    intro args part
    cases part with
    | required part => exact ih (h.part (.required .refl)) args part
  | notRequired t ih =>
    intro args part
    cases part with
    | notRequired part => exact ih (h.part (.notRequired .refl)) args part
  | documented doc t ih =>
    intro args part
    cases part with
    | documented part => exact ih (h.part (.documented .refl)) args part
  | _ => exact h

/-! ## Beside the copy -/

namespace Copyable

variable {source : Registry} {key copy : TypeKey} {args : List TypeExpr} {definition : TypeDef}

theorem lookup_copy :
    (source.define copy (definition.instantiate args)).lookup copy =
      some (definition.instantiate args) := by
  unfold Registry.lookup Registry.define
  rw [Entries.find?_insert, if_pos rfl]

theorem lookup_of_ne {k : TypeKey} (h : k ≠ copy) :
    (source.define copy (definition.instantiate args)).lookup k = source.lookup k := by
  unfold Registry.lookup Registry.define
  rw [Entries.find?_insert, if_neg h]

/-- An inherited record, the same on both sides, in scopes that are alike. -/
def Inherited (source : Registry) (key : TypeKey) (args : List TypeExpr) (copy : TypeKey)
    (p p' : RecordDef × Scope) : Prop :=
  p'.1 = p.1 ∧ ScopeAlike key args copy p.2 p'.2 ∧ ∃ k, source.lookup k = some (.record p.1)

mutual

/-- Bases that are entered alike bring records that correspond one by one. -/
theorem branch_rel (ctx : Copyable source key args copy definition) {trail : List TypeKey}
    {s s' : Scope} {base base' : TypeExpr}
    (other : (∀ k as, base.unwrapped ≠ .named k as) → ∀ k as, base'.unwrapped ≠ .named k as)
    (entered : ∀ k as, base.unwrapped = .named k as → k ≠ copy ∧
      ∃ as', base'.unwrapped = .named k as' ∧
        ∀ params, ScopeAlike key args copy (s.enter params as) (s'.enter params as')) :
    List.Forall₂ (Inherited source key args copy) (source.branch trail s base)
      ((source.define copy (definition.instantiate args)).branch trail s' base') := by
  rcases source.leads_cases trail base with ⟨k, as, r, leads⟩ | idle
  · obtain ⟨ne, as', named', scopes⟩ := entered k as leads.named
    have leads' : (source.define copy (definition.instantiate args)).Leads trail base' k as' r :=
      ⟨named', leads.fresh, (lookup_of_ne ne).trans leads.lookup⟩
    rw [Registry.branch_of_leads leads, Registry.branch_of_leads leads']
    refine .cons ⟨rfl, scopes r.typeParams, k, leads.lookup⟩ ?_
    exact ctx.branches_rel leads.lookup (scopes r.typeParams)
  · -- the other base leads nowhere either
    have idle' : ∀ k as r,
        ¬(source.define copy (definition.instantiate args)).Leads trail base' k as r := by
      intro k' as' r leads'
      by_cases named : ∃ k as, base.unwrapped = .named k as
      · obtain ⟨k, as, named⟩ := named
        obtain ⟨ne, as'', named', _⟩ := entered k as named
        cases named'.symm.trans leads'.named
        exact idle k' as r ⟨named, leads'.fresh, (lookup_of_ne ne).symm.trans leads'.lookup⟩
      · exact other (by simpa using named) k' as' leads'.named
    rw [Registry.branch_of_idle idle, Registry.branch_of_idle idle']
    exact .nil
termination_by (source.unvisited trail, 0)
decreasing_by exact .left _ _ leads.unvisited_lt

/-- The bases of a described record bring the same in scopes that are alike. -/
theorem branches_rel (ctx : Copyable source key args copy definition) {trail : List TypeKey}
    {s s' : Scope} {k : TypeKey} {r : RecordDef} (lookup : source.lookup k = some (.record r))
    (scopes : ScopeAlike key args copy s s') :
    List.Forall₂ (Inherited source key args copy) (r.bases.flatMap (source.branch trail s))
      (r.bases.flatMap
        ((source.define copy (definition.instantiate args)).branch trail s')) := by
  refine List.rel_flatMap (R := fun b b' => b' = b ∧ b ∈ r.bases)
    (List.forall₂_same.mpr fun b hb => ⟨rfl, hb⟩) ?_
  rintro _ base ⟨rfl, hbase⟩
  have avoids := (ctx.unused k _ lookup base (TypeDef.base_mem_types hbase)).part
    (TypeExpr.Part.unwrapped base)
  refine ctx.branch_rel id fun k' as named => ?_
  rw [named] at avoids
  refine ⟨fun hk => avoids as (hk ▸ .refl), as, named, fun params => ?_⟩
  refine scopes.enter ctx.closed (List.forall₂_same.mpr fun a ha => ?_) params
  exact .refl a (avoids.part (.named ha .refl))
termination_by (source.unvisited trail, 1)
decreasing_by exact .right _ Nat.zero_lt_one

end

/-- `Copied p p'`: a type in a scope of the source and its counterpart beside the copy. In either
direction it is enough to conform to something that is alike. -/
structure Copied (source : Registry) (key : TypeKey) (args : List TypeExpr) (copy : TypeKey)
    (definition : TypeDef) (p p' : TypeExpr × Scope) : Prop where
  forth : ∃ t s, Alike key args copy p.1 t ∧ ScopeAlike key args copy p.2 s ∧
    ∀ limit used value,
      Conforms (source.define copy (definition.instantiate args)) limit used s t value →
      Conforms (source.define copy (definition.instantiate args)) limit used p'.2 p'.1 value
  back : ∃ t s, Alike key args copy t p'.1 ∧ ScopeAlike key args copy s p'.2 ∧
    ∀ used value, Conforms source ⊤ used s t value → Conforms source ⊤ used p.2 p.1 value

theorem Copied.of_alike {t t' : TypeExpr} {s s' : Scope} (alike : Alike key args copy t t')
    (scopes : ScopeAlike key args copy s s') :
    Copied source key args copy definition (t, s) (t', s') :=
  ⟨⟨t', s', alike, scopes, fun _ _ _ h => h⟩, ⟨t, s, alike, scopes, fun _ _ h => h⟩⟩

/-- A type of the definition, where the parameters are bound, and its instance in the copy. -/
theorem Copied.of_instantiate {bindings : Entries ClosedType}
    {argument : String → Option TypeExpr} {t : TypeExpr} {this this' : Option ClosedType}
    (binds : Binds bindings argument) (plain : t.PlainKeys)
    (avoids : t.Avoids copy) (avoids' : (t.instantiate argument).Avoids copy)
    (bound : ∀ name c, bindings.find? name = some c → c.1.Avoids copy)
    (selves : Option.Rel (fun c c' => Alike key args copy c.1 c'.1) this this') :
    Copied source key args copy definition (t, ⟨bindings, this⟩)
      (t.instantiate argument, ⟨[], this'⟩) where
  forth := by
    refine ⟨t, ⟨bindings, this'⟩, .refl t avoids, ⟨fun name => ?_, selves⟩, ?_⟩
    · cases found : bindings.find? name with
      | none => exact .none
      | some c => exact .some (.refl c.1 (bound name c found))
    · exact fun limit used value h => h.instantiate binds plain
  back := by
    refine ⟨t.instantiate argument, ⟨[], this⟩, .refl _ avoids', ⟨fun name => .none, selves⟩, ?_⟩
    intro used value h
    have inside : Binds (Scope.mk bindings this).bindings argument := binds
    exact Conforms.of_instantiate inside plain h

/-- Definitions that are entered from references that are alike. -/
inductive Entered (source : Registry) (key : TypeKey) (args : List TypeExpr) (copy : TypeKey)
    (definition : TypeDef) (s s' : Scope) (k k' : TypeKey) (as as' : List TypeExpr) :
    TypeDef → TypeDef → Prop
  | opaqueType {name name'} : Entered source key args copy definition s s' k k' as as'
      (.opaqueType name) (.opaqueType name')
  | aliased {a a' : AliasDef} :
      Copied source key args copy definition (a.target, s.enter a.typeParams as)
        (a'.target, s'.enter a'.typeParams as') →
      Entered source key args copy definition s s' k k' as as' (.aliased a) (.aliased a')
  | record {r r' : RecordDef} :
      (∀ name, Option.Rel
        (fun p p' => p'.1.isOptional = p.1.isOptional ∧
          Copied source key args copy definition (p.1.type, p.2) (p'.1.type, p'.2))
        (source.fieldOf (s.enterRecord k r.typeParams as) r name)
        ((source.define copy (definition.instantiate args)).fieldOf
          (s'.enterRecord k' r'.typeParams as') r' name)) →
      Option.Rel (Copied source key args copy definition)
        (source.extraOf (s.enterRecord k r.typeParams as) r)
        ((source.define copy (definition.instantiate args)).extraOf
          (s'.enterRecord k' r'.typeParams as') r') →
      Entered source key args copy definition s s' k k' as as' (.record r) (.record r')

/-- `Offers p p'`: the records have the same field names and their fields and further members are
counterparts. -/
structure Offers (source : Registry) (key : TypeKey) (args : List TypeExpr) (copy : TypeKey)
    (definition : TypeDef) (p p' : RecordDef × Scope) : Prop where
  field : ∀ name, Option.Rel
    (fun p p' => p'.1.isOptional = p.1.isOptional ∧
      Copied source key args copy definition (p.1.type, p.2) (p'.1.type, p'.2))
    (Registry.ownField name p) (Registry.ownField name p')
  extra : Option.Rel (Copied source key args copy definition)
    (p.1.extra.map (·, p.2)) (p'.1.extra.map (·, p'.2))

/-- The same record in scopes that are alike. -/
theorem Offers.of_alike (ctx : Copyable source key args copy definition) {k : TypeKey}
    {r : RecordDef} {s s' : Scope} (lookup : source.lookup k = some (.record r))
    (scopes : ScopeAlike key args copy s s') :
    Offers source key args copy definition (r, s) (r, s') where
  field name := by
    show Option.Rel _ ((r.fields.find? (·.name = name)).map (·, s))
      ((r.fields.find? (·.name = name)).map (·, s'))
    cases hf : r.fields.find? (·.name = name) with
    | none => exact .none
    | some f =>
      have mem := List.mem_of_find?_eq_some hf
      have avoids := ctx.unused k _ lookup _ (TypeDef.field_mem_types mem)
      exact .some ⟨rfl, .of_alike (.refl _ avoids) scopes⟩
  extra := by
    show Option.Rel _ (r.extra.map (·, s)) (r.extra.map (·, s'))
    cases ht : r.extra with
    | none => exact .none
    | some t =>
      have avoids := ctx.unused k _ lookup _ (TypeDef.extra_mem_types ht)
      exact .some (.of_alike (.refl _ avoids) scopes)

/-- Records that offer the same, and inherit the same, are entered alike. -/
theorem Entered.of_offers (ctx : Copyable source key args copy definition) {s s' : Scope}
    {k k' : TypeKey} {as as' : List TypeExpr} {r r' : RecordDef}
    (own : Offers source key args copy definition (r, s.enterRecord k r.typeParams as)
      (r', s'.enterRecord k' r'.typeParams as'))
    (bases : List.Forall₂ (Inherited source key args copy)
      (r.bases.flatMap (source.branch [] (s.enterRecord k r.typeParams as)))
      (r'.bases.flatMap ((source.define copy (definition.instantiate args)).branch []
        (s'.enterRecord k' r'.typeParams as')))) :
    Entered source key args copy definition s s' k k' as as' (.record r) (.record r') := by
  have all : List.Forall₂ (Offers source key args copy definition)
      (source.heritage (s.enterRecord k r.typeParams as) r)
      ((source.define copy (definition.instantiate args)).heritage
        (s'.enterRecord k' r'.typeParams as') r') := by
    refine .cons own (bases.imp ?_)
    rintro ⟨p, inner⟩ ⟨_, inner'⟩ ⟨rfl, scopes, k, lookup⟩
    exact .of_alike ctx lookup scopes
  refine .record (fun name => ?_) (findSome?_rel all fun _ _ offers => offers.extra)
  rw [Registry.fieldOf_eq_findSome?, Registry.fieldOf_eq_findSome?]
  exact findSome?_rel all fun _ _ offers => offers.field name

theorem argumentOf_avoids (ctx : Copyable source key args copy definition) {params : List String}
    {name : String} {a : TypeExpr} (h : argumentOf params args name = some a) :
    a.Avoids copy := by
  unfold argumentOf at h
  split at h
  · cases h
    cases found : Entries.find? (Entries.ofList (params.zip args)) name with
    | none => exact fun args part => by cases part
    | some a =>
      exact ctx.unusedArgs a (List.of_mem_zip (Entries.mem_of_find?_ofList found)).2
  · cases h

theorem bound_avoids (ctx : Copyable source key args copy definition) (s : Scope)
    {params : List String} {name : String} {c : ClosedType}
    (h : (s.bind params args).find? name = some c) : c.1.Avoids copy := by
  have mem := (List.of_mem_zip (Entries.mem_of_find?_ofList h)).2
  obtain ⟨a, ha, rfl⟩ := List.mem_map.mp mem
  show (s.substitute a).Avoids copy
  rw [s.substitute_of_closed a (ctx.closed a ha)]
  exact ctx.unusedArgs a ha

/-- A type of the definition and its instance. -/
theorem copied (ctx : Copyable source key args copy definition) (s : Scope) {params : List String}
    {t : TypeExpr} (mem : t ∈ definition.types) {this this' : Option ClosedType}
    (selves : Option.Rel (fun c c' => Alike key args copy c.1 c'.1) this this') :
    Copied source key args copy definition (t, ⟨s.bind params args, this⟩)
      (t.instantiate (argumentOf params args), ⟨[], this'⟩) := by
  have avoids := ctx.unused key _ ctx.described t mem
  exact .of_instantiate (binds_argumentOf ctx.closed s params) (ctx.plainKeys t mem) avoids
    (.instantiate (fun _ _ => ctx.argumentOf_avoids) t avoids) (fun _ _ => ctx.bound_avoids s)
    selves

/-- The scope inside the definition is like the one in which only `self` is that of the copy. -/
theorem scope_alike (ctx : Copyable source key args copy definition) (s : Scope)
    (params : List String) {this this' : Option ClosedType}
    (selves : Option.Rel (fun c c' => Alike key args copy c.1 c'.1) this this') :
    ScopeAlike key args copy ⟨s.bind params args, this⟩ ⟨s.bind params args, this'⟩ where
  bindings name := by
    show Option.Rel _ ((s.bind params args).find? name) ((s.bind params args).find? name)
    cases found : (s.bind params args).find? name with
    | none => exact .none
    | some c => exact .some (.refl c.1 (ctx.bound_avoids s found))
  this := selves

/-- The bases of a record and those of its copy bring the same. -/
theorem bases_rel {r : RecordDef} (ctx : Copyable source key args copy (.record r)) (s : Scope)
    {this this' : Option ClosedType}
    (selves : Option.Rel (fun c c' => Alike key args copy c.1 c'.1) this this') :
    List.Forall₂ (Inherited source key args copy)
      (r.bases.flatMap (source.branch [] ⟨s.bind r.typeParams args, this⟩))
      ((r.bases.map (TypeExpr.instantiate (argumentOf r.typeParams args))).flatMap
        ((source.define copy ((TypeDef.record r).instantiate args)).branch [] ⟨[], this'⟩)) := by
  have each : List.Forall₂
      (fun b b' => b' = b.instantiate (argumentOf r.typeParams args) ∧ b ∈ r.bases) r.bases
      (r.bases.map (TypeExpr.instantiate (argumentOf r.typeParams args))) := by
    rw [List.forall₂_map_right_iff, List.forall₂_same]
    exact fun b hb => ⟨rfl, hb⟩
  refine List.rel_flatMap each ?_
  rintro base _ ⟨rfl, hbase⟩
  have plain := ctx.plainBases r rfl base hbase
  have inside : (base.instantiate (argumentOf r.typeParams args)).unwrapped =
      base.unwrapped.instantiate (argumentOf r.typeParams args) :=
    TypeExpr.unwrapped_instantiate base plain
  refine ctx.branch_rel ?_ ?_
  -- writing arguments in makes no reference of a base that is none: it is no variable
  · intro none_named k as named
    rw [inside] at named
    cases hbase : base.unwrapped with
    | named k as => exact none_named k as hbase
    | var name => exact plain name hbase
    | _ =>
      rw [hbase, TypeExpr.instantiate] at named
      cases named
  · intro k as named
    have avoids := (ctx.unused key _ ctx.described base (TypeDef.base_mem_types hbase)).part
      (TypeExpr.Part.unwrapped base)
    rw [named] at avoids inside
    rw [TypeExpr.instantiate, TypeExpr.instantiateAll_eq_map] at inside
    refine ⟨fun hk => avoids as (hk ▸ .refl), _, inside, fun params => ?_⟩
    have arguments : List.Forall₂ (Alike key args copy) as as :=
      List.forall₂_same.mpr fun a ha => .refl a (avoids.part (.named ha .refl))
    have entered := (ctx.scope_alike s r.typeParams selves).enter ctx.closed arguments params
    have written : as.map (Scope.substitute ⟨s.bind r.typeParams args, this'⟩) =
        (as.map (TypeExpr.instantiate (argumentOf r.typeParams args))).map
          (Scope.substitute ⟨[], this'⟩) :=
      (Scope.map_substitute_instantiate (binds_argumentOf ctx.closed s r.typeParams) as).symm
    rw [Scope.enter_congr written rfl] at entered
    exact entered

/-- References that are alike lead to definitions that are entered alike. -/
theorem entered (ctx : Copyable source key args copy definition)
    (presence : KeepsPresence args definition) {s s' : Scope} {k k' : TypeKey}
    {as as' : List TypeExpr} (scopes : ScopeAlike key args copy s s')
    (alike : Alike key args copy (.named k as) (.named k' as')) :
    Option.Rel (Entered source key args copy definition s s' k k' as as') (source.lookup k)
      ((source.define copy (definition.instantiate args)).lookup k') := by
  cases alike with
  | swap =>
    -- the definition itself and its copy
    rw [ctx.described, lookup_copy]
    refine .some ?_
    cases definition with
    | opaqueType name => exact .opaqueType
    | aliased a => exact .aliased (ctx.copied s (.head _) scopes.this)
    | record r =>
      have selves : Option.Rel (fun c c' => Alike key args copy c.1 c'.1)
          (some (s.close (.named key args))) (some (s'.close (.named copy []))) :=
        .some (scopes.substitute ctx.closed .swap)
      refine .of_offers ctx ⟨fun name => ?_, ?_⟩ (ctx.bases_rel s selves)
      · show Option.Rel _ _ (((r.fields.map _).find? _).map _)
        rw [List.find?_map]
        show Option.Rel _ ((r.fields.find? (·.name = name)).map _)
          (((r.fields.find? (·.name = name)).map _).map _)
        cases hf : r.fields.find? (·.name = name) with
        | none => exact .none
        | some f =>
          have mem := List.mem_of_find?_eq_some hf
          exact .some ⟨presence r rfl f mem, ctx.copied s (TypeDef.field_mem_types mem) selves⟩
      · show Option.Rel _ (r.extra.map _) ((r.extra.map _).map _)
        cases ht : r.extra with
        | none => exact .none
        | some t => exact .some (ctx.copied s (TypeDef.extra_mem_types ht) selves)
  | named ne length each =>
    -- any other definition is the same on both sides
    rw [lookup_of_ne ne]
    have arguments : List.Forall₂ (Alike key args copy) as as' :=
      List.forall₂_iff_zip.mpr ⟨length, fun hp => each _ hp⟩
    cases lookup : source.lookup k with
    | none => exact .none
    | some d =>
      refine .some ?_
      cases d with
      | opaqueType name => exact .opaqueType
      | aliased a =>
        have avoids := ctx.unused k _ lookup a.target (.head _)
        exact .aliased (.of_alike (.refl _ avoids) (scopes.enter ctx.closed arguments _))
      | record r =>
        have inside := scopes.enterRecord ctx.closed ne arguments r.typeParams
        exact .of_offers ctx (.of_alike ctx lookup inside) (ctx.branches_rel lookup inside)

/-! ## The two directions -/

/-- What conforms in the source conforms beside the copy, in a place that is alike. -/
theorem forth (ctx : Copyable source key args copy definition)
    (presence : KeepsPresence args definition) {limit : ℕ∞} {used : Nat} {s s' : Scope}
    {t t' : TypeExpr} {value : Json} (h : Conforms source limit used s t value)
    (scopes : ScopeAlike key args copy s s') (alike : Alike key args copy t t') :
    Conforms (source.define copy (definition.instantiate args)) limit used s' t' value := by
  induction h generalizing s' t' with
  | any => cases alike; exact .any
  | string => cases alike; exact .string
  | number => cases alike; exact .number
  | integer h => cases alike; exact .integer h
  | boolean => cases alike; exact .boolean
  | null => cases alike; exact .null
  | literal mem admits => cases alike; exact .literal mem admits
  | required _ ih =>
    cases alike with | required alike => exact .required (ih scopes alike)
  | notRequired _ ih =>
    cases alike with | notRequired alike => exact .notRequired (ih scopes alike)
  | documented _ ih =>
    cases alike with | documented alike => exact .documented (ih scopes alike)
  | selfFree h =>
    cases alike
    exact .selfFree (rel_none_left (h ▸ scopes.this))
  | self h lt _ ih =>
    cases alike
    obtain ⟨this', hthis, alike⟩ := rel_some_left (h ▸ scopes.this)
    exact .self hthis lt (ih scopes alike)
  | varFree h =>
    cases alike
    exact .varFree (rel_none_left (h ▸ scopes.bindings _))
  | var h lt _ ih =>
    cases alike
    obtain ⟨bound', hbound, alike⟩ := rel_some_left (h ▸ scopes.bindings _)
    exact .var hbound lt (ih scopes alike)
  | union mem lt _ ih =>
    cases alike with
    | union length each =>
      obtain ⟨i, hi⟩ := List.mem_iff_getElem?.mp mem
      obtain ⟨m', hi'⟩ := exists_getElem? length hi
      have alike := each (_, m') (mem_zip_iff.mpr ⟨i, hi, hi'⟩)
      exact .union (List.mem_of_getElem? hi') lt (ih scopes alike)
  | undescribed h =>
    obtain ⟨k', as', rfl⟩ := alike.exists_named
    exact .undescribed (rel_none_left (h ▸ ctx.entered presence scopes alike))
  | opaqueType h =>
    obtain ⟨k', as', rfl⟩ := alike.exists_named
    obtain ⟨d, hlookup, entered⟩ := rel_some_left (h ▸ ctx.entered presence scopes alike)
    cases entered
    exact .opaqueType hlookup
  | aliased h lt _ ih =>
    obtain ⟨k', as', rfl⟩ := alike.exists_named
    obtain ⟨d, hlookup, entered⟩ := rel_some_left (h ▸ ctx.entered presence scopes alike)
    cases entered with
    | aliased target =>
      obtain ⟨u, inner, alike, scopes, onward⟩ := target.forth
      exact .aliased hlookup lt (onward _ _ _ (ih scopes alike))
  | record h _ missing further _ present extra =>
    obtain ⟨k', as', rfl⟩ := alike.exists_named
    obtain ⟨d, hlookup, entered⟩ := rel_some_left (h ▸ ctx.entered presence scopes alike)
    cases entered with
    | record fields others =>
      refine .record hlookup ?_ ?_ ?_ ?_
      · intro name f' inner' item hfield' hitem
        obtain ⟨⟨f, inner⟩, hfield, _, copied⟩ := rel_some_right (hfield' ▸ fields name)
        obtain ⟨u, inner, alike, scopes, onward⟩ := copied.forth
        exact onward _ _ _ (present name f _ item hfield hitem scopes alike)
      · intro name f' inner' hfield' hitem
        obtain ⟨⟨f, inner⟩, hfield, hoptional, _⟩ := rel_some_right (hfield' ▸ fields name)
        exact hoptional.trans (missing name f inner hfield hitem)
      · intro name item hmem hfield' hnone
        have hfield := rel_none_right (hfield' ▸ fields name)
        exact further name item hmem hfield (rel_none_right (hnone ▸ others))
      · intro name item t' inner' hmem hfield' hextra'
        have hfield := rel_none_right (hfield' ▸ fields name)
        obtain ⟨⟨t, inner⟩, hextra, copied⟩ := rel_some_right (hextra' ▸ others)
        obtain ⟨u, inner, alike, scopes, onward⟩ := copied.forth
        exact onward _ _ _ (extra name item t _ hmem hfield hextra scopes alike)
  | listAny => cases alike; exact .listAny
  | list _ ih =>
    cases alike with | list alike => exact .list fun item hitem => ih item hitem scopes alike
  | variadic _ ih =>
    cases alike with
    | variadic alike => exact .variadic fun item hitem => ih item hitem scopes alike
  | tuple length _ ih =>
    cases alike with
    | tuple length' each =>
      refine .tuple (length.trans length') fun p' hp' => ?_
      obtain ⟨i, hi', hitem⟩ := mem_zip_iff.mp hp'
      obtain ⟨t, hi⟩ := exists_getElem? length'.symm hi'
      exact ih (t, p'.2) (mem_zip_iff.mpr ⟨i, hi, hitem⟩) scopes
        (each (t, p'.1) (mem_zip_iff.mpr ⟨i, hi, hi'⟩))
  | map kinds _ _ keys items =>
    cases alike with
    | map hk hv alikek alikev =>
      refine .map ?_ ?_ ?_
      · intro name item hmem
        rw [← Alike.keyKindFindings_eq hk alikek]
        exact kinds name item hmem
      · intro name item narrow' hmem hkey'
        obtain ⟨narrow, hkey, alike⟩ := rel_some_right (hkey' ▸ Alike.keyType?_rel hk alikek)
        exact keys name item narrow hmem hkey scopes alike
      · rintro name item t' hmem rfl
        obtain ⟨t, ht⟩ := Option.isSome_iff_exists.mp hv
        exact items name item t hmem ht scopes (alikev t t' ht rfl)

/-- What conforms beside the copy conforms in the source, in a place that is alike. -/
theorem back (ctx : Copyable source key args copy definition)
    (presence : KeepsPresence args definition) {used : Nat} {s s' : Scope}
    {t t' : TypeExpr} {value : Json}
    (h : Conforms (source.define copy (definition.instantiate args)) ⊤ used s' t' value)
    (scopes : ScopeAlike key args copy s s') (alike : Alike key args copy t t') :
    Conforms source ⊤ used s t value := by
  induction h generalizing s t with
  | any => cases alike; exact .any
  | string => cases alike; exact .string
  | number => cases alike; exact .number
  | integer h => cases alike; exact .integer h
  | boolean => cases alike; exact .boolean
  | null => cases alike; exact .null
  | literal mem admits => cases alike; exact .literal mem admits
  | required _ ih =>
    cases alike with | required alike => exact .required (ih scopes alike)
  | notRequired _ ih =>
    cases alike with | notRequired alike => exact .notRequired (ih scopes alike)
  | documented _ ih =>
    cases alike with | documented alike => exact .documented (ih scopes alike)
  | selfFree h =>
    cases alike
    exact .selfFree (rel_none_right (h ▸ scopes.this))
  | self h lt _ ih =>
    cases alike
    obtain ⟨this, hthis, alike⟩ := rel_some_right (h ▸ scopes.this)
    exact .self hthis lt (ih scopes alike)
  | varFree h =>
    cases alike
    exact .varFree (rel_none_right (h ▸ scopes.bindings _))
  | var h lt _ ih =>
    cases alike
    obtain ⟨bound, hbound, alike⟩ := rel_some_right (h ▸ scopes.bindings _)
    exact .var hbound lt (ih scopes alike)
  | union mem lt _ ih =>
    cases alike with
    | union length each =>
      obtain ⟨i, hi'⟩ := List.mem_iff_getElem?.mp mem
      obtain ⟨m, hi⟩ := exists_getElem? length.symm hi'
      have alike := each (m, _) (mem_zip_iff.mpr ⟨i, hi, hi'⟩)
      exact .union (List.mem_of_getElem? hi) lt (ih scopes alike)
  | undescribed h =>
    obtain ⟨k, as, rfl⟩ := alike.exists_named'
    exact .undescribed (rel_none_right (h ▸ ctx.entered presence scopes alike))
  | opaqueType h =>
    obtain ⟨k, as, rfl⟩ := alike.exists_named'
    obtain ⟨d, hlookup, entered⟩ := rel_some_right (h ▸ ctx.entered presence scopes alike)
    cases entered
    exact .opaqueType hlookup
  | aliased h lt _ ih =>
    obtain ⟨k, as, rfl⟩ := alike.exists_named'
    obtain ⟨d, hlookup, entered⟩ := rel_some_right (h ▸ ctx.entered presence scopes alike)
    cases entered with
    | aliased target =>
      obtain ⟨u, inner, alike, scopes, onward⟩ := target.back
      exact .aliased hlookup lt (onward _ _ (ih scopes alike))
  | record h _ missing further _ present extra =>
    obtain ⟨k, as, rfl⟩ := alike.exists_named'
    obtain ⟨d, hlookup, entered⟩ := rel_some_right (h ▸ ctx.entered presence scopes alike)
    cases entered with
    | record fields others =>
      refine .record hlookup ?_ ?_ ?_ ?_
      · intro name f inner item hfield hitem
        obtain ⟨⟨f', inner'⟩, hfield', _, copied⟩ := rel_some_left (hfield ▸ fields name)
        obtain ⟨u, inner, alike, scopes, onward⟩ := copied.back
        exact onward _ _ (present name f' _ item hfield' hitem scopes alike)
      · intro name f inner hfield hitem
        obtain ⟨⟨f', inner'⟩, hfield', hoptional, _⟩ := rel_some_left (hfield ▸ fields name)
        exact hoptional.symm.trans (missing name f' inner' hfield' hitem)
      · intro name item hmem hfield hnone
        have hfield' := rel_none_left (hfield ▸ fields name)
        exact further name item hmem hfield' (rel_none_left (hnone ▸ others))
      · intro name item t inner hmem hfield hextra
        have hfield' := rel_none_left (hfield ▸ fields name)
        obtain ⟨⟨t', inner'⟩, hextra', copied⟩ := rel_some_left (hextra ▸ others)
        obtain ⟨u, inner, alike, scopes, onward⟩ := copied.back
        exact onward _ _ (extra name item t' _ hmem hfield' hextra' scopes alike)
  | listAny => cases alike; exact .listAny
  | list _ ih =>
    cases alike with | list alike => exact .list fun item hitem => ih item hitem scopes alike
  | variadic _ ih =>
    cases alike with
    | variadic alike => exact .variadic fun item hitem => ih item hitem scopes alike
  | tuple length _ ih =>
    cases alike with
    | tuple length' each =>
      refine .tuple (length.trans length'.symm) fun p hp => ?_
      obtain ⟨i, hi, hitem⟩ := mem_zip_iff.mp hp
      obtain ⟨t', hi'⟩ := exists_getElem? length' hi
      exact ih (t', p.2) (mem_zip_iff.mpr ⟨i, hi', hitem⟩) scopes
        (each (p.1, t') (mem_zip_iff.mpr ⟨i, hi, hi'⟩))
  | map kinds _ _ keys items =>
    cases alike with
    | map hk hv alikek alikev =>
      refine .map ?_ ?_ ?_
      · intro name item hmem
        rw [Alike.keyKindFindings_eq hk alikek]
        exact kinds name item hmem
      · intro name item narrow hmem hkey
        obtain ⟨narrow', hkey', alike⟩ := rel_some_left (hkey ▸ Alike.keyType?_rel hk alikek)
        exact keys name item narrow' hmem hkey' scopes alike
      · rintro name item t hmem rfl
        obtain ⟨t', ht'⟩ := Option.isSome_iff_exists.mp hv.symm
        exact items name item t' hmem ht' scopes (alikev t t' rfl ht')

end Copyable

/-- A generic type is its instance: where chains of expansions are short, a reference with closed
arguments has the values of the copy in which the arguments stand in the place of the parameters. No
argument is taken for a parameter of what the definition refers to, since the copy has none. -/
theorem Registry.findings_instantiate (source : Registry) (key copy : TypeKey)
    (args : List TypeExpr) (definition : TypeDef) (value : Json)
    (copyable : Copyable source key args copy definition)
    (presence : KeepsPresence args definition)
    (short : ShortChains source .empty (.named key args) value) :
    source.findings (.named key args) value = [] ↔
      (source.define copy (definition.instantiate args)).findings (.named copy []) value = [] := by
  rw [findings_eq_nil_iff_conforms short]
  constructor
  · intro h
    have within := h.within_limit short fun n _ _ chain => by
      rw [Nat.zero_add]
      exact short.lt chain
    exact check_eq_nil_of_conforms (copyable.forth presence within .empty .swap) (by decide)
  · intro hnil
    have h := conforms_of_check_eq_nil .empty expansionLimit _ value hnil 0
    exact copyable.back presence h .empty .swap

/-! ## A box -/

/-- A record with one field, of the type of its parameter. -/
def boxDef : RecordDef :=
  { name := "Box", typeParams := ["T"], fields := [{ name := "content", type := .var "T" }] }

/-- Boxes and nothing else. -/
def boxes : Registry := ⟨[("Box", .record boxDef)], []⟩

theorem lookup_boxes {key : TypeKey} {d : TypeDef} (h : boxes.lookup key = some d) :
    key = "Box" ∧ d = .record boxDef :=
  Entries.eq_of_find?_singleton h

theorem copyable_box {a : TypeExpr} (closed : a.isClosed = true) (avoids : a.Avoids "Copy") :
    Copyable boxes "Box" [a] "Copy" (.record boxDef) where
  described := rfl
  closed := by simpa using closed
  fresh := rfl
  unused k d h t ht := by
    obtain ⟨_, rfl⟩ := lookup_boxes h
    obtain rfl := List.mem_singleton.mp ht
    exact fun args part => by cases part
  unusedArgs := by simpa using avoids
  plainKeys t ht := by
    obtain rfl := List.mem_singleton.mp ht
    exact fun key value part => by cases part
  plainBases r hr base hbase := by
    cases hr
    cases hbase

theorem shortChains_box {a : TypeExpr} {members : List (String × Json)}
    (content : ∀ item, Entries.find? members "content" = some item →
      ShortChains boxes (Scope.empty.enterRecord "Box" ["T"] [a]) (.var "T") item) :
    ShortChains boxes .empty (.named "Box" [a]) (.object members) := by
  refine .of_record rfl fun _ _ _ step => ?_
  cases step with
  | field lookup hfield hitem =>
    cases (lookup_boxes lookup).2
    have hname := Registry.name_of_fieldOf hfield
    rw [Registry.fieldOf_of_no_bases rfl] at hfield
    obtain ⟨f, hf, heq⟩ := Option.map_eq_some_iff.mp hfield
    cases heq
    obtain rfl := List.mem_singleton.mp (List.mem_of_find?_eq_some hf)
    subst hname
    exact content _ hitem
  | extra lookup _ _ hextra =>
    cases (lookup_boxes lookup).2
    cases hextra

/-- The limit plays no part for a box of a text. -/
theorem shortChains_box_string : ShortChains boxes .empty (.named "Box" [.string])
    (.object [("content", .string "a")]) := by
  refine shortChains_box fun item hitem => ?_
  cases hitem
  have text : ∀ n scope scope' t, Expands boxes n scope .string scope' t → n = 0 ∧ t = .string := by
    intro n scope scope' t h
    cases h
    exact ⟨rfl, rfl⟩
  -- the variable leads to the text and no further
  refine .intro (fun n _ _ h => ?_) fun n _ _ _ _ _ h step => ?_
  · cases h with
    | refl => decide
    | var found h =>
      cases found
      rw [(text _ _ _ _ h).1]
      decide
  · cases h with
    | refl => cases step
    | var found h =>
      cases found
      obtain ⟨_, rfl⟩ := text _ _ _ _ h
      cases step

theorem findings_instantiate_box_string :
    boxes.findings (.named "Box" [.string]) (.object [("content", .string "a")]) = [] ↔
      (boxes.define "Copy" ((TypeDef.record boxDef).instantiate [.string])).findings
        (.named "Copy" []) (.object [("content", .string "a")]) = [] :=
  Registry.findings_instantiate boxes "Box" "Copy" [.string] (.record boxDef) _
    (copyable_box rfl fun args part => by cases part)
    (fun r hr f hf => by
      cases hr
      obtain rfl := List.mem_singleton.mp hf
      decide)
    shortChains_box_string

/-- The condition on the presence of fields is needed. A box of a type that makes fields optional
still requires its content, and its copy does not. -/
theorem not_findings_instantiate_wrapped :
    ¬∀ (source : Registry) (key copy : TypeKey) (args : List TypeExpr) (definition : TypeDef)
        (value : Json), Copyable source key args copy definition →
      ShortChains source .empty (.named key args) value →
      (source.findings (.named key args) value = [] ↔
        (source.define copy (definition.instantiate args)).findings (.named copy []) value =
          []) := by
  intro h
  have avoids : (TypeExpr.notRequired .string).Avoids "Copy" := by
    intro args part
    cases part with | notRequired part => cases part
  have agree := h boxes "Box" "Copy" [.notRequired .string] (.record boxDef) (.object [])
    (copyable_box rfl avoids) (shortChains_box fun item hitem => by cases hitem)
  have accepted : (boxes.define "Copy" ((TypeDef.record boxDef).instantiate
      [.notRequired .string])).findings (.named "Copy" []) (.object []) = [] := by
    refine (Registry.check_record_eq_nil Copyable.lookup_copy).mpr ⟨[], rfl, ?_, ?_, ?_⟩
    · exact fun name f inner item _ hitem => by cases hitem
    · intro name f inner hfield _
      rw [Registry.fieldOf_of_no_bases rfl] at hfield
      obtain ⟨f', hf, heq⟩ := Option.map_eq_some_iff.mp hfield
      cases heq
      obtain rfl := List.mem_singleton.mp (List.mem_of_find?_eq_some hf)
      rfl
    · exact fun name item hmem => by cases hmem
  have nothing : boxes.check .empty (63 + 1) (.named "Box" [.notRequired .string]) (.object []) =
      [] := agree.mpr accepted
  obtain ⟨members, heq, _, missing, _⟩ := (Registry.check_record_eq_nil rfl).mp nothing
  cases heq
  cases missing "content" _ _ (Registry.fieldOf_of_no_bases rfl) rfl

end SchemaDialogue
