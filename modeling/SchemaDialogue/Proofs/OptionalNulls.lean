import SchemaDialogue.Proofs.Expansion
import SchemaDialogue.Proofs.Members
import SchemaDialogue.Proofs.Redeclared
import SchemaDialogue.Proofs.Stripping

/-!
# Nulls that are only optional

A model may write `null` for what it could have left out. Stripping such nulls keeps a value valid:

* **places**: a field that may not be left out, and a position of a tuple, are where a value is
  missed when it is dropped. They reject `null` wherever the check of the value comes to them
  (`SparesNulls`);
* **one check**: then what passes a type passes it without its nulls (`check_stripNulls`), along the
  induction that the check follows;
* **definitions**: without type parameters it is enough to look at the definitions and at the type
  itself (`NullsOptional`, `sparesNulls`).
-/

namespace SchemaDialogue

/-! ## What is left of the parts of a value -/

namespace Json

variable {items : List Json} {members : List (String × Json)} {name : String}

/-- Names that are distinct select what is left of what they selected before. -/
theorem find?_stripMembers (distinct : (Entries.keys members).Nodup) (name : String) :
    Entries.find? (stripMembers members) name =
      (Entries.find? members name).bind fun item =>
        if item.isNull then none else some item.stripNulls := by
  induction members with
  | nil => rfl
  | cons m rest ih =>
    obtain ⟨key, item⟩ := m
    obtain ⟨fresh, distinct⟩ := List.nodup_cons.mp distinct
    have others := ih distinct
    unfold Entries.find? at others ⊢
    by_cases same : name = key
    · subst same
      -- no other member has the name, so that nothing takes the place of a `null`
      have none : List.lookup name rest = none := Entries.find?_eq_none.mpr fresh
      rw [none] at others
      cases null : item.isNull <;> simp [stripMembers, null, others]
    · have other : (name == key) = false := beq_eq_false_iff_ne.mpr same
      cases null : item.isNull <;> simp [stripMembers, null, List.lookup_cons, other, others]

/-- A member that is selected after stripping was selected before. -/
theorem exists_of_find?_stripMembers (distinct : (Entries.keys members).Nodup) {left : Json}
    (found : Entries.find? (stripMembers members) name = some left) :
    ∃ item, Entries.find? members name = some item ∧ item.stripNulls = left := by
  rw [find?_stripMembers distinct, Option.bind_eq_some_iff] at found
  obtain ⟨item, found, kept⟩ := found
  split at kept
  · cases kept
  · exact ⟨item, found, Option.some.inj kept⟩

/-- A name that selects nothing after stripping selected nothing, or a `null`. -/
theorem find?_of_find?_stripMembers (distinct : (Entries.keys members).Nodup)
    (absent : Entries.find? (stripMembers members) name = none) :
    Entries.find? members name = none ∨ Entries.find? members name = some .null := by
  rw [find?_stripMembers distinct] at absent
  cases found : Entries.find? members name with
  | none => exact .inl rfl
  | some item =>
    rw [found, Option.bind_some] at absent
    split at absent
    case isTrue null => exact .inr (congrArg some (isNull_eq_true.mp null))
    case isFalse => cases absent

theorem stripItems_of_forall (kept : ∀ item ∈ items, item ≠ .null) :
    stripItems items = items.map stripNulls := by
  rw [stripItems_eq, List.filter_eq_self.mpr]
  intro item mem
  simp [isNull_eq_false.mpr (kept item mem)]

theorem Distinct.of_item {item : Json} (distinct : Distinct (.array items)) (mem : item ∈ items) :
    item.Distinct := by
  obtain ⟨_, found⟩ := List.mem_iff_getElem?.mp mem
  exact distinct.of_getElem? found

/-- A value of some kind stays one. -/
theorem admits_stripNulls (kind : Kind) (v : Json) :
    kind.admits v.stripNulls = kind.admits v := by
  cases v <;> cases kind <;> rfl

/-- A literal admits leaves only, which stay as they are. -/
theorem stripNulls_of_admits {choice : Literal} {v : Json} (admits : choice.admits v = true) :
    v.stripNulls = v := by
  cases v with
  | array => cases choice <;> cases admits
  | object => cases choice <;> cases admits
  | _ => rfl

end Json

/-! ## Where `null` is rejected -/

namespace Registry

/-- A type rejects `null` in a scope. -/
def RejectsNull (source : Registry) (scope : Scope) (t : TypeExpr) : Prop :=
  source.check scope expansionLimit t .null ≠ []

/-- What is missed when it is dropped rejects `null`: each position of a tuple, and each field of a
record that may not be left out. -/
structure Firm (source : Registry) (scope : Scope) (t : TypeExpr) : Prop where
  positions : ∀ elements, t = .tuple elements → ∀ e ∈ elements, source.RejectsNull scope e
  fields : ∀ key args r name f inner, t = .named key args →
    source.lookup key = some (.record r) →
    source.fieldOf (scope.enterRecord key r.typeParams args) r name = some (f, inner) →
    f.isOptional = false → source.RejectsNull inner f.type

end Registry

/-- The check of the value comes to firm places only. -/
def SparesNulls (source : Registry) (scope : Scope) (t : TypeExpr) (value : Json) : Prop :=
  ∀ scope' t' value', Visits source scope t value scope' t' value' → source.Firm scope' t'

section

variable {source : Registry} {scope scope' : Scope} {t t' : TypeExpr} {value value' : Json}

theorem SparesNulls.expand {n : Nat} (spares : SparesNulls source scope t value)
    (h : Expands source n scope t scope' t') : SparesNulls source scope' t' value :=
  fun _ _ _ visits => spares _ _ _ (.expand h visits)

theorem SparesNulls.descend (spares : SparesNulls source scope t value)
    (h : Descends source scope t value scope' t' value') : SparesNulls source scope' t' value' :=
  fun _ _ _ visits => spares _ _ _ (.descend h visits)

namespace Registry

/-! ## One check

What passes a compound form passes it without its nulls, if this holds of smaller values. -/

section

variable (smaller : ∀ scope left t v, v.size < value.size → SparesNulls source scope t v →
  v.Distinct → source.check scope left t v = [] → source.check scope left t v.stripNulls = [])
include smaller

theorem check_list_stripNulls {left : Nat} {element : TypeExpr}
    (spares : SparesNulls source scope (.list (some element)) value) (distinct : value.Distinct)
    (h : source.check scope left (.list (some element)) value = []) :
    source.check scope left (.list (some element)) value.stripNulls = [] := by
  obtain ⟨items, rfl, each⟩ := check_list_eq_nil.mp h
  refine check_list_eq_nil.mpr ⟨_, rfl, fun left mem => ?_⟩
  obtain ⟨item, there, -, rfl⟩ := Json.mem_stripItems.mp mem
  exact smaller _ _ _ _ (Json.size_lt_of_mem_array there) (spares.descend (.list there))
    (distinct.of_item there) (each item there)

theorem check_variadic_stripNulls {left : Nat} {element : TypeExpr}
    (spares : SparesNulls source scope (.variadic element) value) (distinct : value.Distinct)
    (h : source.check scope left (.variadic element) value = []) :
    source.check scope left (.variadic element) value.stripNulls = [] := by
  obtain ⟨items, rfl, each⟩ := check_variadic_eq_nil.mp h
  refine check_variadic_eq_nil.mpr ⟨_, rfl, fun left mem => ?_⟩
  obtain ⟨item, there, -, rfl⟩ := Json.mem_stripItems.mp mem
  exact smaller _ _ _ _ (Json.size_lt_of_mem_array there) (spares.descend (.variadic there))
    (distinct.of_item there) (each item there)

/-- No item of a tuple is dropped, so that each one keeps its position. -/
theorem check_tuple_stripNulls {left : Nat} {elements : List TypeExpr}
    (spares : SparesNulls source scope (.tuple elements) value) (distinct : value.Distinct)
    (h : source.check scope left (.tuple elements) value = []) :
    source.check scope left (.tuple elements) value.stripNulls = [] := by
  obtain ⟨items, rfl, length, each⟩ := check_tuple_eq_nil.mp h
  have kept : ∀ item ∈ items, item ≠ .null := by
    rintro _ there rfl
    obtain ⟨index, found⟩ := List.mem_iff_getElem?.mp there
    obtain ⟨element, position⟩ := exists_getElem? length found
    have pair : (element, .null) ∈ elements.zip items := mem_zip_iff.mpr ⟨index, position, found⟩
    exact (spares _ _ _ .refl).positions elements rfl element (List.of_mem_zip pair).1
      (each _ pair)
  refine check_tuple_eq_nil.mpr ⟨_, rfl, ?_, fun p there => ?_⟩
  · rw [Json.stripItems_of_forall kept, List.length_map, length]
  · rw [Json.stripItems_of_forall kept, List.zip_map_right] at there
    obtain ⟨q, pair, rfl⟩ := List.mem_map.mp there
    have there := (List.of_mem_zip pair).2
    exact smaller _ _ _ _ (Json.size_lt_of_mem_array there) (spares.descend (.tuple pair))
      (distinct.of_item there) (each q pair)

/-- The names of members stay as they are. -/
theorem check_map_stripNulls {left : Nat} {key element : Option TypeExpr}
    (spares : SparesNulls source scope (.map key element) value) (distinct : value.Distinct)
    (h : source.check scope left (.map key element) value = []) :
    source.check scope left (.map key element) value.stripNulls = [] := by
  obtain ⟨members, rfl, each⟩ := check_map_eq_nil.mp h
  refine check_map_eq_nil.mpr ⟨_, rfl, fun name left mem => ?_⟩
  obtain ⟨item, there, -, rfl⟩ := Json.mem_stripMembers.mp mem
  obtain ⟨kind, ofKey, ofItem⟩ := each name item there
  refine ⟨kind, ofKey, ?_⟩
  rintro t rfl
  exact smaller _ _ _ _ (Json.size_lt_of_mem_object there) (spares.descend (.value there))
    (distinct.of_mem there) (ofItem t rfl)

/-- A field whose `null` is dropped may be left out. -/
theorem check_record_stripNulls {left : Nat} {key : TypeKey} {args : List TypeExpr} {r : RecordDef}
    (lookup : source.lookup key = some (.record r))
    (spares : SparesNulls source scope (.named key args) value) (distinct : value.Distinct)
    (h : source.check scope (left + 1) (.named key args) value = []) :
    source.check scope (left + 1) (.named key args) value.stripNulls = [] := by
  obtain ⟨members, rfl, present, missing, further⟩ := (check_record_eq_nil lookup).mp h
  have names : (Entries.keys members).Nodup := distinct [] members .here
  refine (check_record_eq_nil lookup).mpr ⟨_, rfl, ?present, ?missing, ?further⟩
  case present =>
    intro name f inner left field selected
    obtain ⟨item, found, rfl⟩ := Json.exists_of_find?_stripMembers names selected
    exact smaller _ _ _ _ (Json.size_lt_of_find? found)
      (spares.descend (.field lookup field found))
      (distinct.of_mem (Entries.mem_of_find? found)) (present name f inner item field found)
  case missing =>
    intro name f inner field absent
    rcases Json.find?_of_find?_stripMembers names absent with absent | dropped
    · exact missing name f inner field absent
    · by_contra needed
      exact (spares _ _ _ .refl).fields key args r name f inner rfl lookup field
        (Bool.not_eq_true _ ▸ needed) (present name f inner .null field dropped)
  case further =>
    intro name left mem field
    obtain ⟨item, there, -, rfl⟩ := Json.mem_stripMembers.mp mem
    obtain ⟨⟨extra, inner⟩, opened, passes⟩ := further name item there field
    exact ⟨(extra, inner), opened, smaller _ _ _ _ (Json.size_lt_of_mem_object there)
      (spares.descend (.extra lookup there field opened)) (distinct.of_mem there) passes⟩

/-- What passes a reference passes it without its nulls, if this holds with fewer expansions left,
too. -/
theorem check_named_stripNulls {left : Nat} {key : TypeKey} {args : List TypeExpr}
    (fewer : ∀ scope left' t, left' < left → SparesNulls source scope t value →
      source.check scope left' t value = [] → source.check scope left' t value.stripNulls = [])
    (spares : SparesNulls source scope (.named key args) value) (distinct : value.Distinct)
    (h : source.check scope left (.named key args) value = []) :
    source.check scope left (.named key args) value.stripNulls = [] := by
  cases left with
  | zero => exact absurd h check_named_zero
  | succ left =>
    cases lookup : source.lookup key with
    | none => exact check_undescribed lookup
    | some definition =>
      cases definition with
      | opaqueType name =>
        rw [check_opaque_eq_nil lookup] at h ⊢
        rwa [Json.admits_stripNulls]
      | aliased a =>
        rw [check_aliased lookup] at h ⊢
        exact fewer _ _ _ (Nat.lt_succ_self left) (spares.expand (.aliased lookup .refl)) h
      | record r => exact check_record_stripNulls smaller lookup spares distinct h

end

/-- What passes a type passes it without its nulls, when all places are firm. -/
theorem check_stripNulls (scope : Scope) (left : Nat) (t : TypeExpr) (value : Json) :
    SparesNulls source scope t value → value.Distinct → source.check scope left t value = [] →
      source.check scope left t value.stripNulls = [] := by
  induction scope, left, t, value using check_induction with
  | step scope left t value smaller fewer closed parts =>
  intro spares distinct h
  cases t with
  | string =>
    rw [check_string_eq_nil] at h ⊢
    rwa [Json.admits_stripNulls]
  | number =>
    rw [check_number_eq_nil] at h ⊢
    rwa [Json.admits_stripNulls]
  | integer =>
    rw [check_integer_eq_nil] at h ⊢
    rwa [Json.admits_stripNulls]
  | boolean =>
    rw [check_boolean_eq_nil] at h ⊢
    rwa [Json.admits_stripNulls]
  | any => exact check_any
  | null =>
    rw [check_null_eq_nil] at h ⊢
    rw [h, Json.stripNulls_eq_null]
  | never => exact absurd h check_never_ne_nil
  | literal choices =>
    rw [check_literal_eq_nil] at h ⊢
    obtain ⟨choice, mem, admits⟩ := h
    exact ⟨choice, mem, by rwa [Json.stripNulls_of_admits admits]⟩
  | self =>
    cases bound : scope.this with
    | none => exact check_self_of_none bound
    | some this =>
      rw [check_self_of_some bound] at h ⊢
      exact closed _ this (Nat.sub_le _ _) rfl (spares.expand (.self bound .refl)) distinct h
  | var name =>
    cases found : scope.bindings.find? name with
    | none => exact check_var_of_none found
    | some bound =>
      rw [check_var_of_some found] at h ⊢
      exact closed _ bound (Nat.sub_le _ _) rfl (spares.expand (.var found .refl)) distinct h
  | named key args =>
    exact check_named_stripNulls smaller
      (fun scope left' t less spares => fewer scope left' t less spares distinct) spares distinct h
  | list element =>
    cases element with
    | none =>
      rw [check_listAny_eq_nil] at h ⊢
      rwa [Json.admits_stripNulls]
    | some element => exact check_list_stripNulls smaller spares distinct h
  | map key element => exact check_map_stripNulls smaller spares distinct h
  | tuple elements => exact check_tuple_stripNulls smaller spares distinct h
  | variadic element => exact check_variadic_stripNulls smaller spares distinct h
  | union members =>
    -- the member that accepts the value goes on to accept it
    obtain ⟨m, member, passes⟩ := check_union_eq_nil.mp h
    refine check_union_eq_nil.mpr ⟨m, member, ?_⟩
    exact parts _ m (Nat.sub_le _ _) (.union member) (spares.expand (.union member .refl)) distinct
      passes
  | required inner =>
    rw [check_required] at h ⊢
    exact parts left inner le_rfl .required (spares.expand (.required .refl)) distinct h
  | notRequired inner =>
    rw [check_notRequired] at h ⊢
    exact parts left inner le_rfl .notRequired (spares.expand (.notRequired .refl)) distinct h
  | documented doc inner =>
    rw [check_documented] at h ⊢
    exact parts left inner le_rfl .documented (spares.expand (.documented .refl)) distinct h

end Registry

end

/-! ## Definitions without type parameters -/

namespace Registry

/-- No definition has type parameters. -/
def Unparameterized (source : Registry) : Prop :=
  ∀ key d, source.lookup key = some d → d.typeParams = []

/-- Nothing is bound, and `self` is a described record, if it is anything. -/
structure Bare (source : Registry) (scope : Scope) : Prop where
  bindings : scope.bindings = []
  this : ∀ this, scope.this = some this →
    ∃ key args r, this.1 = .named key args ∧ source.lookup key = some (.record r)

/-- A scope that a definition is read in. Inside a record there is a `self`. -/
structure Inside (source : Registry) (d : TypeDef) (scope : Scope) : Prop where
  bare : source.Bare scope
  this : ∀ r, d = .record r → scope.this ≠ none

/-- All positions of the tuples in a type expression reject `null`. -/
def PositionsRejectNull (source : Registry) (scope : Scope) (t : TypeExpr) : Prop :=
  ∀ elements, TypeExpr.Part (.tuple elements) t → ∀ e ∈ elements, source.RejectsNull scope e

/-- Without type parameters, the definitions allow `null` only for what may be left out: not for a
field that is needed, and not in a position of a tuple. -/
structure NullsOptional (source : Registry) : Prop where
  unparameterized : source.Unparameterized
  fields : ∀ key r, source.lookup key = some (.record r) → ∀ f ∈ r.fields, f.isOptional = false →
    ∀ scope, source.Inside (.record r) scope → source.RejectsNull scope f.type
  positions : ∀ key d, source.lookup key = some d → ∀ t ∈ d.types,
    ∀ scope, source.Inside d scope → source.PositionsRejectNull scope t

variable {source : Registry} {scope scope' : Scope} {t t' : TypeExpr} {value value' : Json}

theorem bare_empty : source.Bare .empty := ⟨rfl, nofun⟩

theorem Bare.enter (bare : source.Bare scope) (args : List TypeExpr) :
    source.Bare (scope.enter [] args) :=
  ⟨rfl, bare.this⟩

theorem bare_enterRecord {key : TypeKey} {r : RecordDef}
    (lookup : source.lookup key = some (.record r)) (scope : Scope) (args : List TypeExpr) :
    source.Bare (scope.enterRecord key [] args) := by
  refine ⟨rfl, ?_⟩
  rintro _ ⟨⟩
  exact ⟨key, _, r, rfl, lookup⟩

/-- What a base brings is described, and read in the scope of the heir. -/
theorem Unparameterized.of_mem_branch (unparameterized : source.Unparameterized)
    {trail : List TypeKey} {base : TypeExpr} {p : RecordDef × Scope} (nothing : scope.bindings = [])
    (h : p ∈ source.branch trail scope base) :
    p.2 = scope ∧ ∃ key, source.lookup key = some (.record p.1) := by
  rcases source.leads_cases trail base with ⟨k, args, r, leads⟩ | idle
  · have inner : inheritScope scope r args = scope := by
      rw [inheritScope, show r.typeParams = [] from unparameterized _ _ leads.lookup]
      exact congrArg (Scope.mk · scope.this) nothing.symm
    rw [branch_of_leads leads, inner] at h
    rcases List.mem_cons.mp h with rfl | h
    · exact ⟨rfl, k, leads.lookup⟩
    · obtain ⟨base', _, h⟩ := List.mem_flatMap.mp h
      exact unparameterized.of_mem_branch nothing h
  · rw [branch_of_idle idle] at h
    cases h
termination_by source.unvisited trail
decreasing_by exact leads.unvisited_lt

theorem Unparameterized.of_mem_heritage (unparameterized : source.Unparameterized) {key : TypeKey}
    {r : RecordDef} (lookup : source.lookup key = some (.record r)) {p : RecordDef × Scope}
    (nothing : scope.bindings = []) (h : p ∈ source.heritage scope r) :
    p.2 = scope ∧ ∃ key, source.lookup key = some (.record p.1) := by
  rcases List.mem_cons.mp h with rfl | h
  · exact ⟨rfl, key, lookup⟩
  · obtain ⟨base, _, h⟩ := List.mem_flatMap.mp h
    exact unparameterized.of_mem_branch nothing h

section

variable {key : TypeKey} {args : List TypeExpr} {r : RecordDef}

/-- The scope that the members of a record are read in is one of the definition that declares them,
whichever record of the heritage this is. -/
theorem Unparameterized.inside_of_mem_heritage (unparameterized : source.Unparameterized)
    (lookup : source.lookup key = some (.record r)) {p : RecordDef × Scope}
    (h : p ∈ source.heritage (scope.enterRecord key r.typeParams args) r) :
    (∃ key, source.lookup key = some (.record p.1)) ∧ source.Inside (.record p.1) p.2 := by
  have none : r.typeParams = [] := unparameterized _ _ lookup
  rw [none] at h
  obtain ⟨same, described⟩ := unparameterized.of_mem_heritage lookup rfl h
  rw [same]
  exact ⟨described, bare_enterRecord lookup scope args, fun _ _ => nofun⟩

theorem Unparameterized.of_fieldOf (unparameterized : source.Unparameterized)
    (lookup : source.lookup key = some (.record r)) {name : String} {f : FieldDef} {inner : Scope}
    (field : source.fieldOf (scope.enterRecord key r.typeParams args) r name = some (f, inner)) :
    ∃ key r, source.lookup key = some (.record r) ∧ f ∈ r.fields ∧
      source.Inside (.record r) inner := by
  rw [fieldOf_eq_findSome?] at field
  obtain ⟨p, mem, own⟩ := List.exists_of_findSome?_eq_some field
  obtain ⟨⟨key, described⟩, inside⟩ := unparameterized.inside_of_mem_heritage lookup mem
  obtain ⟨f, found, ⟨⟩⟩ := Option.map_eq_some_iff.mp own
  exact ⟨key, p.1, described, List.mem_of_find?_eq_some found, inside⟩

theorem Unparameterized.of_extraOf (unparameterized : source.Unparameterized)
    (lookup : source.lookup key = some (.record r)) {extra : TypeExpr} {inner : Scope}
    (opened : source.extraOf (scope.enterRecord key r.typeParams args) r = some (extra, inner)) :
    ∃ key r, source.lookup key = some (.record r) ∧ r.extra = some extra ∧
      source.Inside (.record r) inner := by
  obtain ⟨p, mem, own⟩ := List.exists_of_findSome?_eq_some opened
  obtain ⟨⟨key, described⟩, inside⟩ := unparameterized.inside_of_mem_heritage lookup mem
  obtain ⟨_, declared, ⟨⟩⟩ := Option.map_eq_some_iff.mp own
  exact ⟨key, p.1, described, declared, inside⟩

end

/-! ## All places are firm -/

/-- A place from which the check of a value comes to firm places only. The arguments of a reference
play no part. -/
structure Guarded (source : Registry) (scope : Scope) (t : TypeExpr) : Prop where
  bare : source.Bare scope
  positions : (∃ key args, t = .named key args) ∨ source.PositionsRejectNull scope t

theorem Guarded.part (guarded : source.Guarded scope t) (part : TypeExpr.Part t' t)
    (compound : ∀ key args, t ≠ .named key args) : source.Guarded scope t' := by
  refine ⟨guarded.bare, .inr fun elements inner => ?_⟩
  obtain ⟨key, args, named⟩ | positions := guarded.positions
  · exact absurd named (compound key args)
  · exact positions elements (inner.trans part)

theorem Guarded.self (guarded : source.Guarded scope t) {this : ClosedType}
    (bound : scope.this = some this) : source.Guarded scope this.1 := by
  obtain ⟨key, args, _, named, _⟩ := guarded.bare.this this bound
  exact ⟨guarded.bare, .inl ⟨key, args, named⟩⟩

namespace NullsOptional

variable (optional : source.NullsOptional)
include optional

theorem guarded_of_inside {key : TypeKey} {d : TypeDef} (lookup : source.lookup key = some d)
    (mem : t ∈ d.types) (inside : source.Inside d scope) : source.Guarded scope t :=
  ⟨inside.bare, .inr (optional.positions key d lookup t mem scope inside)⟩

theorem firm (guarded : source.Guarded scope t) : source.Firm scope t where
  positions := by
    rintro elements rfl
    obtain ⟨_, _, ⟨⟩⟩ | positions := guarded.positions
    exact positions elements .refl
  fields := by
    rintro key args r name f inner rfl lookup field needed
    obtain ⟨key, r, described, mem, inside⟩ := optional.unparameterized.of_fieldOf lookup field
    exact optional.fields key r described f mem needed inner inside

theorem expand {n : Nat} (h : Expands source n scope t scope' t') :
    source.Guarded scope t → source.Guarded scope' t' := by
  induction h with
  | refl => exact id
  | required _ ih => exact fun guarded => ih (guarded.part (.required .refl) nofun)
  | notRequired _ ih => exact fun guarded => ih (guarded.part (.notRequired .refl) nofun)
  | documented _ ih => exact fun guarded => ih (guarded.part (.documented .refl) nofun)
  | union mem _ ih => exact fun guarded => ih (guarded.part (.union mem .refl) nofun)
  | self bound _ ih => exact fun guarded => ih (guarded.self bound)
  | var found _ _ =>
    intro guarded
    rw [guarded.bare.bindings] at found
    cases found
  | @aliased _ scope _ args a _ _ lookup _ ih =>
    intro guarded
    have none : a.typeParams = [] := optional.unparameterized _ _ lookup
    rw [none] at ih
    exact ih (optional.guarded_of_inside lookup (.head _) ⟨guarded.bare.enter args, nofun⟩)

theorem descend (h : Descends source scope t value scope' t' value')
    (guarded : source.Guarded scope t) : source.Guarded scope' t' := by
  cases h with
  | field lookup field =>
    obtain ⟨key, r, described, mem, inside⟩ := optional.unparameterized.of_fieldOf lookup field
    exact optional.guarded_of_inside described (TypeDef.field_mem_types mem) inside
  | extra lookup _ _ opened =>
    obtain ⟨key, r, described, declared, inside⟩ :=
      optional.unparameterized.of_extraOf lookup opened
    exact optional.guarded_of_inside described (TypeDef.extra_mem_types declared) inside
  | list => exact guarded.part (.list .refl) nofun
  | variadic => exact guarded.part (.variadic .refl) nofun
  | tuple mem => exact guarded.part (.tuple (List.of_mem_zip mem).1 .refl) nofun
  | key _ narrow =>
    obtain ⟨t, rfl, rfl⟩ := unwrapped_of_keyType? narrow
    exact guarded.part (.key (.unwrapped t)) nofun
  | value => exact guarded.part (.value .refl) nofun

/-- From a guarded place the check of a value comes to guarded places only. -/
theorem visit (h : Visits source scope t value scope' t' value') :
    source.Guarded scope t → source.Guarded scope' t' := by
  induction h with
  | refl => exact id
  | expand chain _ ih => exact fun guarded => ih (optional.expand chain guarded)
  | descend step _ ih => exact fun guarded => ih (optional.descend step guarded)

theorem sparesNulls (guarded : source.Guarded scope t) (value : Json) :
    SparesNulls source scope t value :=
  fun _ _ _ visits => optional.firm (optional.visit visits guarded)

end NullsOptional

/-- **Stripping nulls that are only optional keeps a value valid.** Where the definitions allow
`null` only for what may be left out, and so does the type itself, a value that passes the type
passes it without its nulls. In a value no two members of an object share a name, and this is so in
whatever is read from a text (`Draft.Reads.distinct`). -/
theorem findings_stripNulls (optional : source.NullsOptional)
    (own : source.PositionsRejectNull .empty t) (distinct : value.Distinct)
    (passes : source.findings t value = []) : source.findings t value.stripNulls = [] :=
  check_stripNulls .empty expansionLimit t value (optional.sparesNulls ⟨bare_empty, .inr own⟩ value)
    distinct passes

/-! ## An optional stop -/

/-- A stop of a journey: a place, and the next stop or `null`, which may be left out. -/
def stopDef : RecordDef :=
  { name := "Stop"
    fields := [{ name := "place", type := .tuple [.number, .number] },
      { name := "next", type := .union [.self, .null], optional := true }] }

def stops : Registry := ⟨[("Stop", .record stopDef)], []⟩

/-- Members of a stop at the origin. -/
def stopAt (next : Json) : List (String × Json) :=
  [("place", .array [.number .zero, .number .zero]), ("next", next)]

theorem lookup_stops {key : TypeKey} {d : TypeDef} (h : stops.lookup key = some d) :
    d = .record stopDef := by
  obtain ⟨⟩ := List.mem_singleton.mp (Entries.mem_of_find? h)
  rfl

theorem rejectsNull_number (source : Registry) (scope : Scope) :
    source.RejectsNull scope .number :=
  mt check_number_eq_nil.mp (by decide)

theorem nullsOptional_stops : stops.NullsOptional where
  unparameterized key d lookup := by
    rw [lookup_stops lookup]
    rfl
  fields key r lookup f mem needed scope _ := by
    cases lookup_stops lookup
    obtain rfl | rfl : f = _ ∨ f = _ := by simpa [stopDef] using mem
    · exact mt check_tuple_eq_nil.mp nofun
    · cases needed
  positions key d lookup t mem scope _ := by
    cases lookup_stops lookup
    obtain rfl | rfl : t = .tuple [.number, .number] ∨ t = .union [.self, .null] := by
      simpa [TypeDef.types, stopDef] using mem
    · intro elements part e there
      cases part with
      | refl =>
        obtain rfl : e = .number := by simpa using there
        exact rejectsNull_number stops scope
      | tuple position part =>
        obtain rfl : _ = TypeExpr.number := by simpa using position
        cases part
    · intro elements part
      cases part with
      | union member part =>
        obtain rfl | rfl : _ = TypeExpr.self ∨ _ = TypeExpr.null := by simpa using member
        all_goals cases part

theorem conforms_stop {limit : ℕ∞} {used : Nat} {scope : Scope} {next : Json}
    (onward : Conforms stops limit 0 (scope.enterRecord "Stop" [] []) (.union [.self, .null])
      next) :
    Conforms stops limit used scope (.named "Stop" []) (.object (stopAt next)) := by
  refine .of_fills (r := stopDef) rfl rfl ⟨?_, ?_, ?_⟩
  · intro f mem item found
    obtain rfl | rfl : f = _ ∨ f = _ := by simpa [stopDef] using mem
    · cases found
      refine .tuple rfl fun p pair => ?_
      obtain rfl : p = (.number, .number .zero) := by simpa using pair
      exact .number
    · cases found
      exact onward
  · intro f mem absent
    obtain rfl | rfl : f = _ ∨ f = _ := by simpa [stopDef] using mem
    all_goals cases absent
  · intro name item mem others
    obtain ⟨rfl, _⟩ | ⟨rfl, _⟩ : name = "place" ∧ _ ∨ name = "next" ∧ _ := by
      simpa [stopAt] using mem
    · exact absurd rfl (others _ (.head _))
    · exact absurd rfl (others _ (.tail _ (.head _)))

/-- A journey with no stop after the second one, which it says with a `null`. -/
def journey : Json := .object (stopAt (.object (stopAt .null)))

theorem findings_journey : stops.findings (.named "Stop" []) journey = [] := by
  refine (findings_decides_conformance stops (.named "Stop" []) journey).2 (conforms_stop ?_)
  refine .union (.head _) (Nat.cast_lt.mpr (by decide)) (.self rfl (Nat.cast_lt.mpr (by decide)) ?_)
  exact conforms_stop (.union (.tail _ (.head _)) (Nat.cast_lt.mpr (by decide)) .null)

theorem distinct_stopAt {next : Json} (distinct : next.Distinct) :
    Json.Distinct (.object (stopAt next)) := by
  have zero : (Json.number .zero).Distinct := by rintro _ _ ⟨⟩
  have place : (Json.array [.number .zero, .number .zero]).Distinct :=
    Json.distinct_array (by simp [zero])
  exact Json.distinct_object (by simp [Entries.keys, stopAt]) (by simp [stopAt, place, distinct])

theorem findings_stripNulls_journey :
    stops.findings (.named "Stop" [])
      (.object (stopAt (.object [("place", .array [.number .zero, .number .zero])]))) = [] := by
  have own : stops.PositionsRejectNull .empty (.named "Stop" []) := by
    intro elements part
    cases part with
    | named mem => cases mem
  have distinct : journey.Distinct := distinct_stopAt (distinct_stopAt fun _ _ reaches => by
    cases reaches)
  exact findings_stripNulls nullsOptional_stops own distinct findings_journey

end Registry

end SchemaDialogue
