import SchemaDialogue.Proofs.Conformance
import SchemaDialogue.Proofs.Lowering

/-!
# Records without bases

What a record without bases asks of an object is asked by its declaration as well, and by the check:
its fields, present or missing, and the members that are no field (`Fills`). Whatever judges the
items, an object fills a record when it does what the check asks (`Fills.of_fieldOf`) or what the
declaration asks (`Fills.of_declaration`), and both sides follow from it (`Conforms.of_fills`,
`Inhabits.of_fills`).
-/

namespace SchemaDialogue

variable {source : Registry} {scope : Scope} {r : RecordDef}

/-! ## Declared members -/

namespace RecordDef

theorem ownFields_of_no_bases (bases : r.bases = []) : r.ownFields source = r.fields := by
  refine List.filter_eq_self.mpr fun f _ => ?_
  have none : r.inheritedTypes source f.name = [] := by
    unfold inheritedTypes Registry.ancestry
    rw [bases, List.map_nil, Registry.ancestryFrom]
    rfl
  rw [isInherited, none]
  rfl

theorem property_mem_members (bases : r.bases = []) {p : Property} :
    Member.property p ∈ (r.declaration source).members ↔
      ∃ f ∈ r.fields, f.property source = p := by
  show Member.property p ∈ _ ++ _ ↔ _
  rw [ownFields_of_no_bases bases, List.mem_append, List.mem_map]
  constructor
  · rintro (⟨f, hf, heq⟩ | h)
    · exact ⟨f, hf, Member.property.inj heq⟩
    · cases hextra : r.extra <;> rw [hextra] at h <;> simp at h
  · rintro ⟨f, hf, rfl⟩
    exact .inl ⟨f, hf, rfl⟩

theorem property_mem_of_field (source : Registry) (bases : r.bases = []) {f : FieldDef}
    (mem : f ∈ r.fields) : Member.property (f.property source) ∈ (r.declaration source).members :=
  (property_mem_members bases).mpr ⟨f, mem, rfl⟩

theorem index_mem_members {key element : Node} :
    Member.index key element ∈ (r.declaration source).members ↔
      ∃ t, r.extra = some t ∧ key = .string ∧ element = t.node source := by
  show Member.index key element ∈ _ ++ _ ↔ _
  rw [List.mem_append]
  constructor
  · rintro (h | h)
    · obtain ⟨f, _, heq⟩ := List.mem_map.mp h
      cases heq
    · cases hextra : r.extra with
      | none =>
        rw [hextra] at h
        cases h
      | some t =>
        rw [hextra] at h
        cases List.mem_singleton.mp h
        exact ⟨t, rfl, rfl, rfl⟩
  · rintro ⟨t, hextra, rfl, rfl⟩
    rw [hextra]
    exact .inr (.head _)

theorem index_mem_of_extra (source : Registry) {t : TypeExpr} (extra : r.extra = some t) :
    Member.index .string (t.node source) ∈ (r.declaration source).members :=
  index_mem_members.mpr ⟨t, extra, rfl, rfl⟩

theorem hasProperty_iff (bases : r.bases = []) {name : String} :
    (r.declaration source).HasProperty name ↔ ∃ f ∈ r.fields, f.name = name := by
  constructor
  · rintro ⟨p, hp, rfl⟩
    obtain ⟨f, hf, rfl⟩ := (property_mem_members bases).mp hp
    exact ⟨f, hf, rfl⟩
  · rintro ⟨f, hf, rfl⟩
    exact ⟨_, property_mem_of_field source bases hf, rfl⟩

end RecordDef

namespace Registry

/-- The fields of a record are its own, when it has no bases and no name twice. -/
theorem fieldOf_of_mem (bases : r.bases = []) (distinct : (r.fields.map (·.name)).Nodup)
    {f : FieldDef} (mem : f ∈ r.fields) : source.fieldOf scope r f.name = some (f, scope) := by
  rw [fieldOf_of_no_bases bases, find?_of_nodup mem distinct, Option.map_some]

theorem mem_of_fieldOf (bases : r.bases = []) {name : String} {f : FieldDef} {inner : Scope}
    (h : source.fieldOf scope r name = some (f, inner)) :
    f ∈ r.fields ∧ f.name = name ∧ inner = scope := by
  have hname := name_of_fieldOf h
  rw [fieldOf_of_no_bases bases, Option.map_eq_some_iff] at h
  obtain ⟨_, hf, heq⟩ := h
  cases heq
  exact ⟨List.mem_of_find?_eq_some hf, hname, rfl⟩

theorem fieldOf_eq_none (bases : r.bases = []) {name : String} :
    source.fieldOf scope r name = none ↔ ∀ f ∈ r.fields, f.name ≠ name := by
  rw [fieldOf_of_no_bases bases, Option.map_eq_none_iff, List.find?_eq_none]
  simp

theorem extraOf_of_no_bases (bases : r.bases = []) :
    source.extraOf scope r = r.extra.map (·, scope) := by
  rw [extraOf, heritage, bases, List.flatMap_nil, List.findSome?_cons, List.findSome?_nil]
  cases r.extra <;> rfl

end Registry

/-! ## Objects -/

/-- An object fills a record without bases, its items being judged by `P`. -/
structure Fills (P : TypeExpr → Json → Prop) (r : RecordDef) (members : List (String × Json)) :
    Prop where
  present : ∀ f ∈ r.fields, ∀ item, Entries.find? members f.name = some item → P f.type item
  missing : ∀ f ∈ r.fields, Entries.find? members f.name = none → f.isOptional = true
  further : ∀ name item, (name, item) ∈ members → (∀ f ∈ r.fields, f.name ≠ name) →
    ∃ t, r.extra = some t ∧ P t item

namespace Fills

variable {members : List (String × Json)}

/-- The items may be judged otherwise, as long as those of the types of the record are. -/
theorem mono {P Q : TypeExpr → Json → Prop} (fills : Fills P r members)
    (judged : ∀ t ∈ (TypeDef.record r).types, ∀ item, P t item → Q t item) :
    Fills Q r members where
  present f hf item hitem :=
    judged _ (TypeDef.field_mem_types hf) item (fills.present f hf item hitem)
  missing := fills.missing
  further name item hmem hname := by
    obtain ⟨t, extra, ok⟩ := fills.further name item hmem hname
    exact ⟨t, extra, judged t (TypeDef.extra_mem_types extra) item ok⟩

/-- What is asked of the fields that a record has, be they inherited, is asked of its own. -/
theorem of_fieldOf {P : Scope → TypeExpr → Json → Prop} (bases : r.bases = [])
    (distinct : (r.fields.map (·.name)).Nodup)
    (present : ∀ name f inner item, source.fieldOf scope r name = some (f, inner) →
      Entries.find? members name = some item → P inner f.type item)
    (missing : ∀ name f inner, source.fieldOf scope r name = some (f, inner) →
      Entries.find? members name = none → f.isOptional = true)
    (further : ∀ name item, (name, item) ∈ members → source.fieldOf scope r name = none →
      source.extraOf scope r ≠ none)
    (extra : ∀ name item t inner, (name, item) ∈ members → source.fieldOf scope r name = none →
      source.extraOf scope r = some (t, inner) → P inner t item) :
    Fills (P scope) r members where
  present f hf item hitem :=
    present _ f _ item (Registry.fieldOf_of_mem bases distinct hf) hitem
  missing f hf := missing _ f _ (Registry.fieldOf_of_mem bases distinct hf)
  further name item hmem hname := by
    have noField : source.fieldOf scope r name = none := (Registry.fieldOf_eq_none bases).mpr hname
    obtain ⟨p, hp⟩ := Option.ne_none_iff_exists'.mp (further name item hmem noField)
    have hp' := hp
    rw [Registry.extraOf_of_no_bases bases, Option.map_eq_some_iff] at hp'
    obtain ⟨t, ht, rfl⟩ := hp'
    exact ⟨t, ht, extra name item t _ hmem noField hp⟩

/-- What is asked of the properties of a declaration is asked of the fields. -/
theorem of_declaration {P : Node → Json → Prop} (source : Registry) (bases : r.bases = [])
    (present : ∀ p item, Member.property p ∈ (r.declaration source).members →
      Entries.find? members p.name = some item → P p.type item)
    (missing : ∀ p, Member.property p ∈ (r.declaration source).members →
      Entries.find? members p.name = none → p.optional = true)
    (further : ∀ name item, (name, item) ∈ members → ¬(r.declaration source).HasProperty name →
      ∃ key element, Member.index key element ∈ (r.declaration source).members)
    (extra : ∀ name item key element, (name, item) ∈ members →
      ¬(r.declaration source).HasProperty name →
      Member.index key element ∈ (r.declaration source).members → P element item) :
    Fills (fun t => P (t.node source)) r members where
  present f hf item hitem := by
    rw [← FieldDef.property_type]
    exact present _ item (RecordDef.property_mem_of_field source bases hf) hitem
  missing f hf hitem := by
    rw [← FieldDef.property_optional]
    exact missing _ (RecordDef.property_mem_of_field source bases hf) hitem
  further name item hmem hname := by
    have other : ¬(r.declaration source).HasProperty name := by
      rw [RecordDef.hasProperty_iff bases]
      exact fun hfield => hfield.elim fun f hf => hname f hf.1 hf.2
    obtain ⟨_, _, hindex⟩ := further name item hmem other
    obtain ⟨t, ht, _, rfl⟩ := RecordDef.index_mem_members.mp hindex
    exact ⟨t, ht, extra name item _ _ hmem other hindex⟩

end Fills

/-- What fills a record conforms to it. -/
theorem Conforms.of_fills {limit : ℕ∞} {used : Nat} {key : TypeKey} {args : List TypeExpr}
    {members : List (String × Json)} (lookup : source.lookup key = some (.record r))
    (bases : r.bases = [])
    (fills : Fills (Conforms source limit 0 (scope.enterRecord key r.typeParams args)) r members) :
    Conforms source limit used scope (.named key args) (.object members) := by
  refine .record lookup ?_ ?_ ?_ ?_
  -- the fields that are there
  · intro name f inner item hfield hitem
    obtain ⟨hf, rfl, rfl⟩ := Registry.mem_of_fieldOf bases hfield
    exact fills.present f hf item hitem
  · intro name f inner hfield hitem
    obtain ⟨hf, rfl, _⟩ := Registry.mem_of_fieldOf bases hfield
    exact fills.missing f hf hitem
  · intro name item hmem hfield
    obtain ⟨t, ht, _⟩ := fills.further name item hmem ((Registry.fieldOf_eq_none bases).mp hfield)
    rw [Registry.extraOf_of_no_bases bases, ht]
    exact Option.some_ne_none _
  · intro name item t inner hmem hfield hextra
    obtain ⟨u, hu, item_ok⟩ :=
      fills.further name item hmem ((Registry.fieldOf_eq_none bases).mp hfield)
    rw [Registry.extraOf_of_no_bases bases, hu] at hextra
    cases hextra
    exact item_ok

/-- What fills a record inhabits its declaration. -/
theorem Inhabits.of_fills {declarations : List Declaration} {e : Env} {name : String}
    {args : List Node} {members : List (String × Json)}
    (resolve : e.resolve declarations name args = some (.interface (r.declaration source)))
    (bases : r.bases = [])
    (fills : Fills (fun t => Inhabits declarations (e.enterInterface name r.typeParams args)
      (t.node source)) r members) :
    Inhabits declarations e (.reference name args) (.object members) := by
  have noField : ∀ {other}, ¬(r.declaration source).HasProperty other →
      ∀ f ∈ r.fields, f.name ≠ other := by
    intro other hother f hf hname
    exact hother ((RecordDef.hasProperty_iff bases).mpr ⟨f, hf, hname⟩)
  refine .interface resolve ?_ ?_ ?_ ?_ ?_ ?_
  · show TypeExpr.nodes source r.bases = []
    rw [bases]
    rfl
  · intro p item hp hitem
    obtain ⟨f, hf, rfl⟩ := (RecordDef.property_mem_members bases).mp hp
    rw [FieldDef.property_type]
    exact fills.present f hf item hitem
  · intro p hp hitem
    obtain ⟨f, hf, rfl⟩ := (RecordDef.property_mem_members bases).mp hp
    rw [FieldDef.property_optional]
    exact fills.missing f hf hitem
  · intro other item hmem hother
    obtain ⟨t, ht, _⟩ := fills.further other item hmem (noField hother)
    exact ⟨_, _, RecordDef.index_mem_of_extra source ht⟩
  · intro other item key element _ _ hindex
    obtain ⟨t, _, rfl, _⟩ := RecordDef.index_mem_members.mp hindex
    rfl
  · intro other item key element hmem hother hindex
    obtain ⟨t, ht, _, rfl⟩ := RecordDef.index_mem_members.mp hindex
    obtain ⟨u, hu, item_ok⟩ := fills.further other item hmem (noField hother)
    cases ht.symm.trans hu
    exact item_ok

end SchemaDialogue
