import SchemaDialogue.Conform.Validate
import SchemaDialogue.Proofs.Parts
import SchemaDialogue.Proofs.Reordering

/-!
# Types up to the order of fields and union members

Definitions and annotations say the same when only the order of the members of unions, and that of
fields with names of their own, is another one. The relation (`TypeExpr.Rearranged`,
`Registry.Rearranged`) is kept by everything that the check does with types: substitution, entering
definitions, inheriting. Together with values up to the order of members this gives one verdict
(`Registry.findings_eq_nil_iff_of_rearranged`): no order decides it.
-/

namespace SchemaDialogue

/-! ## The relation -/

/-- The same type expression but for the order of the members of unions in it. -/
inductive TypeExpr.Rearranged : TypeExpr → TypeExpr → Prop
  | union {ts mid ts'} : ts.Perm mid → mid.length = ts'.length →
      (∀ p ∈ mid.zip ts', Rearranged p.1 p.2) → Rearranged (.union ts) (.union ts')
  | named {key ts ts'} : ts.length = ts'.length → (∀ p ∈ ts.zip ts', Rearranged p.1 p.2) →
      Rearranged (.named key ts) (.named key ts')
  | tuple {ts ts'} : ts.length = ts'.length → (∀ p ∈ ts.zip ts', Rearranged p.1 p.2) →
      Rearranged (.tuple ts) (.tuple ts')
  | listAny : Rearranged (.list none) (.list none)
  | list {t t'} : Rearranged t t' → Rearranged (.list (some t)) (.list (some t'))
  | map {k k' v v'} : k.isSome = k'.isSome → v.isSome = v'.isSome →
      (∀ t t', k = some t → k' = some t' → Rearranged t t') →
      (∀ t t', v = some t → v' = some t' → Rearranged t t') →
      Rearranged (.map k v) (.map k' v')
  | variadic {t t'} : Rearranged t t' → Rearranged (.variadic t) (.variadic t')
  | required {t t'} : Rearranged t t' → Rearranged (.required t) (.required t')
  | notRequired {t t'} : Rearranged t t' → Rearranged (.notRequired t) (.notRequired t')
  | documented {doc t t'} : Rearranged t t' → Rearranged (.documented doc t) (.documented doc t')
  | string : Rearranged .string .string
  | number : Rearranged .number .number
  | integer : Rearranged .integer .integer
  | boolean : Rearranged .boolean .boolean
  | any : Rearranged .any .any
  | null : Rearranged .null .null
  | never : Rearranged .never .never
  | self : Rearranged .self .self
  | var {name} : Rearranged (.var name) (.var name)
  | literal {choices} : Rearranged (.literal choices) (.literal choices)

/-- The same field but for the order of union members in its type. -/
structure FieldDef.Rearranged (f f' : FieldDef) : Prop where
  name : f.name = f'.name
  type : f.type.Rearranged f'.type
  optional : f.optional = f'.optional

/-- The same record but for the order of its fields, if their names differ, and that of union
members. Written names and documentation play no part. -/
structure RecordDef.Rearranged (r r' : RecordDef) : Prop where
  typeParams : r.typeParams = r'.typeParams
  bases : List.Forall₂ TypeExpr.Rearranged r.bases r'.bases
  extra : Option.Rel TypeExpr.Rearranged r.extra r'.extra
  fields : ∃ mid, (r.fields = mid ∨ r.fields.Perm mid ∧ (r.fields.map (·.name)).Nodup) ∧
    List.Forall₂ FieldDef.Rearranged mid r'.fields

/-- The same definition but for the order of fields and union members. -/
inductive TypeDef.Rearranged : TypeDef → TypeDef → Prop
  | record {r r' : RecordDef} : r.Rearranged r' → Rearranged (.record r) (.record r')
  | aliased {a a' : AliasDef} : a.typeParams = a'.typeParams → a.target.Rearranged a'.target →
      Rearranged (.aliased a) (.aliased a')
  | opaqueType {name name' : String} : Rearranged (.opaqueType name) (.opaqueType name')

/-- Registries of the same definitions but for the order of fields and union members. -/
def Registry.Rearranged (source source' : Registry) : Prop :=
  ∀ key, Option.Rel TypeDef.Rearranged (source.lookup key) (source'.lookup key)

namespace TypeExpr.Rearranged

variable {t t' : TypeExpr}

theorem refl (t : TypeExpr) : t.Rearranged t := by
  have each : ∀ ts : List TypeExpr, (∀ t ∈ ts, t.Rearranged t) →
      ∀ p ∈ ts.zip ts, p.1.Rearranged p.2 := fun ts hts p hp =>
    (List.forall₂_iff_zip.mp (List.forall₂_same.mpr hts)).2 hp
  have option : ∀ o : Option TypeExpr, (∀ t, o = some t → t.Rearranged t) →
      ∀ t t', o = some t → o = some t' → t.Rearranged t' := by
    rintro o ho t t' rfl ⟨⟩
    exact ho t rfl
  induction t using TypeExpr.induction with
  | named key args ih => exact .named rfl (each args ih)
  | list element ih =>
    cases element with
    | none => exact .listAny
    | some t => exact .list (ih t rfl)
  | map key value ihk ihv => exact .map rfl rfl (option key ihk) (option value ihv)
  | tuple elements ih => exact .tuple rfl (each elements ih)
  | variadic element ih => exact .variadic ih
  | union members ih => exact .union (.refl members) rfl (each members ih)
  | required inner ih => exact .required ih
  | notRequired inner ih => exact .notRequired ih
  | documented doc inner ih => exact .documented ih
  | string => exact .string
  | number => exact .number
  | integer => exact .integer
  | boolean => exact .boolean
  | any => exact .any
  | null => exact .null
  | never => exact .never
  | self => exact .self
  | var name => exact .var
  | literal choices => exact .literal

/-- Wrappers are taken off of both. -/
theorem unwrapped (h : t.Rearranged t') : t.unwrapped.Rearranged t'.unwrapped := by
  induction h with
  | required _ ih | notRequired _ ih | documented _ ih => exact ih
  | union perm length each => exact .union perm length each
  | named length each => exact .named length each
  | tuple length each => exact .tuple length each
  | list h => exact .list h
  | map hk hv keys values => exact .map hk hv keys values
  | variadic h => exact .variadic h
  | _ => exact .refl _

/-- Wrappers give the same optionality. -/
theorem optionality_eq (h : t.Rearranged t') (byDefault : Bool) :
    FieldDef.optionality byDefault t = FieldDef.optionality byDefault t' := by
  induction h with
  | documented _ ih => exact ih
  | _ => rfl

/-- Types of keys judge the names of members by their kind alike. -/
theorem keyKindFindings_eq {k k' : Option TypeExpr} (some_iff : k.isSome = k'.isSome)
    (h : ∀ t t', k = some t → k' = some t' → t.Rearranged t') (name : String) :
    keyKindFindings k name = keyKindFindings k' name := by
  cases k with
  | none =>
    cases k' with
    | none => rfl
    | some t' => cases some_iff
  | some t =>
    cases k' with
    | none => cases some_iff
    | some t' =>
      unfold keyKindFindings
      rw [Option.map_some, Option.map_some]
      have inner := (h t t' rfl rfl).unwrapped
      generalize t.unwrapped = u at inner
      generalize t'.unwrapped = u' at inner
      cases inner <;> rfl

/-- Types of keys are narrowed alike. -/
theorem keyType?_rel {k k' : Option TypeExpr} (some_iff : k.isSome = k'.isSome)
    (h : ∀ t t', k = some t → k' = some t' → t.Rearranged t') :
    Option.Rel TypeExpr.Rearranged (keyType? k) (keyType? k') := by
  cases k with
  | none =>
    cases k' with
    | none => exact .none
    | some t' => cases some_iff
  | some t =>
    cases k' with
    | none => cases some_iff
    | some t' =>
      unfold keyType?
      rw [Option.map_some, Option.map_some]
      have inner := (h t t' rfl rfl).unwrapped
      generalize t.unwrapped = u at inner
      generalize t'.unwrapped = u' at inner
      cases inner with
      | named length each => exact .some (.named length each)
      | union perm length each => exact .some (.union perm length each)
      | literal => exact .some .literal
      | _ => exact .none

theorem forall₂ {ts ts' : List TypeExpr} (length : ts.length = ts'.length)
    (each : ∀ p ∈ ts.zip ts', p.1.Rearranged p.2) : List.Forall₂ TypeExpr.Rearranged ts ts' :=
  List.forall₂_iff_zip.mpr ⟨length, fun h => each _ h⟩

theorem option_rel {o o' : Option TypeExpr} (some_iff : o.isSome = o'.isSome)
    (h : ∀ t t', o = some t → o' = some t' → t.Rearranged t') :
    Option.Rel TypeExpr.Rearranged o o' := by
  cases o <;> cases o'
  · exact .none
  · cases some_iff
  · cases some_iff
  · exact .some (h _ _ rfl rfl)

end TypeExpr.Rearranged

theorem FieldDef.Rearranged.isOptional_eq {f f' : FieldDef} (h : f.Rearranged f') :
    f.isOptional = f'.isOptional := by
  rw [FieldDef.isOptional, FieldDef.isOptional, h.optional, h.type.optionality_eq]

/-! ## Scopes -/

/-- Scopes that bind the same parameters, and `self`, to closed types that say the same. -/
structure Scope.Rearranged (s s' : Scope) : Prop where
  bindings : ∀ name, Option.Rel (fun c c' : ClosedType => c.1.Rearranged c'.1)
    (s.bindings.find? name) (s'.bindings.find? name)
  this : Option.Rel (fun c c' : ClosedType => c.1.Rearranged c'.1) s.this s'.this

namespace Scope.Rearranged

variable {s s' : Scope} {args args' : List TypeExpr}

theorem refl (s : Scope) : s.Rearranged s := by
  have same : ∀ o : Option ClosedType,
      Option.Rel (fun c c' : ClosedType => c.1.Rearranged c'.1) o o := fun o => by
    cases o with
    | none => exact .none
    | some c => exact .some (.refl c.1)
  exact ⟨fun name => same _, same _⟩

theorem substitute (h : s.Rearranged s') {t t' : TypeExpr} (types : t.Rearranged t') :
    (s.substitute t).Rearranged (s'.substitute t') := by
  have each : ∀ {ts ts' : List TypeExpr},
      (∀ p ∈ ts.zip ts', (s.substitute p.1).Rearranged (s'.substitute p.2)) →
      ∀ p ∈ (ts.map s.substitute).zip (ts'.map s'.substitute), p.1.Rearranged p.2 := by
    intro ts ts' hts p hp
    rw [List.zip_map] at hp
    obtain ⟨q, hq, rfl⟩ := List.mem_map.mp hp
    exact hts q hq
  have option : ∀ {o o' : Option TypeExpr},
      (∀ t t', o = some t → o' = some t' → (s.substitute t).Rearranged (s'.substitute t')) →
      ∀ t t', o.map s.substitute = some t → o'.map s'.substitute = some t' → t.Rearranged t' := by
    intro o o' ho t t' ht ht'
    obtain ⟨u, hu, rfl⟩ := Option.map_eq_some_iff.mp ht
    obtain ⟨u', hu', rfl⟩ := Option.map_eq_some_iff.mp ht'
    exact ho u u' hu hu'
  have lengths : ∀ {ts ts' : List TypeExpr}, ts.length = ts'.length →
      (ts.map s.substitute).length = (ts'.map s'.substitute).length := fun length => by
    rw [List.length_map, List.length_map, length]
  induction types with
  | union perm length _ ih =>
    rw [Scope.substitute, Scope.substitute, substituteAll_eq_map, substituteAll_eq_map]
    exact .union (perm.map _) (lengths length) (each ih)
  | named length _ ih =>
    rw [Scope.substitute, Scope.substitute, substituteAll_eq_map, substituteAll_eq_map]
    exact .named (lengths length) (each ih)
  | tuple length _ ih =>
    rw [Scope.substitute, Scope.substitute, substituteAll_eq_map, substituteAll_eq_map]
    exact .tuple (lengths length) (each ih)
  | list _ ih => exact .list ih
  | map hk hv _ _ ihk ihv =>
    rw [Scope.substitute, Scope.substitute, substituteOption_eq_map, substituteOption_eq_map,
      substituteOption_eq_map, substituteOption_eq_map]
    exact .map (by rw [Option.isSome_map, Option.isSome_map, hk])
      (by rw [Option.isSome_map, Option.isSome_map, hv]) (option ihk) (option ihv)
  | variadic _ ih => exact .variadic ih
  | required _ ih => exact .required ih
  | notRequired _ ih => exact .notRequired ih
  | documented _ ih => exact .documented ih
  | self =>
    rw [Scope.substitute, Scope.substitute, Scope.selfMeaning, Scope.selfMeaning]
    have this := h.this
    revert this
    cases s.this <;> cases s'.this <;> intro this <;> cases this
    · exact .any
    · assumption
  | @var name =>
    rw [Scope.substitute, Scope.substitute, Scope.meaning, Scope.meaning]
    have bound := h.bindings name
    revert bound
    cases s.bindings.find? name <;> cases s'.bindings.find? name <;> intro bound <;> cases bound
    · exact .any
    · assumption
  | _ => exact .refl _

theorem bind (h : s.Rearranged s') (types : List.Forall₂ TypeExpr.Rearranged args args')
    (params : List String) (name : String) :
    Option.Rel (fun c c' : ClosedType => c.1.Rearranged c'.1) ((s.bind params args).find? name)
      ((s'.bind params args').find? name) := by
  refine Entries.find?_ofList_rel (Entries.forall₂_zip ?_ params) name
  rw [List.forall₂_map_left_iff, List.forall₂_map_right_iff]
  exact types.imp fun _ _ => h.substitute

theorem enter (h : s.Rearranged s') (types : List.Forall₂ TypeExpr.Rearranged args args')
    (params : List String) : (s.enter params args).Rearranged (s'.enter params args') :=
  ⟨h.bind types params, h.this⟩

theorem enterRecord (h : s.Rearranged s') (key : TypeKey)
    (types : List.Forall₂ TypeExpr.Rearranged args args') (params : List String) :
    (s.enterRecord key params args).Rearranged (s'.enterRecord key params args') := by
  obtain ⟨length, each⟩ := List.forall₂_iff_zip.mp types
  exact ⟨h.bind types params, .some (h.substitute (.named length fun p hp => each hp))⟩

end Scope.Rearranged

/-! ## Inheriting -/

theorem rel_map {α β γ δ : Type} {R : α → β → Prop} {S : γ → δ → Prop} {f : α → γ} {g : β → δ}
    {o : Option α} {o' : Option β} (h : Option.Rel R o o') (each : ∀ a b, R a b → S (f a) (g b)) :
    Option.Rel S (o.map f) (o'.map g) := by
  cases h with
  | none => exact .none
  | some hab => exact .some (each _ _ hab)

/-- First occurrences of lists that correspond one by one. -/
theorem find?_rel {α β : Type} {R : α → β → Prop} {l : List α} {l' : List β} {P : α → Bool}
    {Q : β → Bool} (h : List.Forall₂ R l l') (same : ∀ a b, R a b → P a = Q b) :
    Option.Rel R (l.find? P) (l'.find? Q) := by
  induction h with
  | nil => exact .none
  | @cons a b l l' hab _ ih =>
    rw [List.find?_cons, List.find?_cons, same a b hab]
    cases Q b with
    | true => exact .some hab
    | false => exact ih

/-- Where no name is given twice, the order plays no part in finding one. -/
theorem find?_eq_of_perm {α : Type} {name : α → String} {l l' : List α} (perm : l.Perm l')
    (distinct : (l.map name).Nodup) (wanted : String) :
    l.find? (name · = wanted) = l'.find? (name · = wanted) := by
  cases found : l.find? (name · = wanted) with
  | none =>
    refine (List.find?_eq_none.mpr fun a mem => ?_).symm
    exact List.find?_eq_none.mp found a (perm.mem_iff.mpr mem)
  | some a =>
    have named : name a = wanted := by simpa using List.find?_some found
    subst named
    exact (find?_of_nodup (perm.mem_iff.mp (List.mem_of_find?_eq_some found))
      ((perm.map name).nodup distinct)).symm

namespace Registry.Rearranged

/-- A record and the scope inside it, and what corresponds to these. -/
def Inherited (p p' : RecordDef × Scope) : Prop := p.1.Rearranged p'.1 ∧ p.2.Rearranged p'.2

variable {source source' : Registry} {scope scope' : Scope} {r r' : RecordDef}

/-- A definition and what corresponds to it are both records, or neither is. -/
theorem lookup_record (h : source.Rearranged source') {key : TypeKey}
    (lookup : source.lookup key = some (.record r)) :
    ∃ r', source'.lookup key = some (.record r') ∧ r.Rearranged r' := by
  obtain ⟨d', lookup', related⟩ := rel_some_left (lookup ▸ h key)
  cases related with
  | record related => exact ⟨_, lookup', related⟩

theorem lookup_record' (h : source.Rearranged source') {key : TypeKey}
    (lookup' : source'.lookup key = some (.record r')) :
    ∃ r, source.lookup key = some (.record r) := by
  obtain ⟨d, lookup, related⟩ := rel_some_right (lookup' ▸ h key)
  cases related with
  | record _ => exact ⟨_, lookup⟩

/-- Bases bring records that correspond one by one. -/
theorem branch_rel (h : source.Rearranged source') {trail : List TypeKey} {scope scope' : Scope}
    {base base' : TypeExpr} (scopes : scope.Rearranged scope') (bases : base.Rearranged base') :
    List.Forall₂ Inherited (source.branch trail scope base)
      (source'.branch trail scope' base') := by
  have inner := bases.unwrapped
  rcases source.leads_cases trail base with ⟨key, args, r, leads⟩ | idle
  · rw [leads.named] at inner
    obtain ⟨r', lookup', related⟩ := h.lookup_record leads.lookup
    generalize named' : base'.unwrapped = t' at inner
    cases inner with
    | @named _ _ args' length each =>
      -- the trail is the same, so the other base is fresh too
      have leads' : source'.Leads trail base' key args' r' := ⟨named', leads.fresh, lookup'⟩
      have inside : (inheritScope scope r args).Rearranged (inheritScope scope' r' args') := by
        rw [inheritScope, inheritScope, related.typeParams]
        exact scopes.enter (TypeExpr.Rearranged.forall₂ length each) r'.typeParams
      rw [branch_of_leads leads, branch_of_leads leads']
      exact .cons ⟨related, inside⟩
        (List.rel_flatMap related.bases fun _ _ bases => h.branch_rel inside bases)
  · -- the other base leads nowhere either
    have idle' : ∀ key args r, ¬source'.Leads trail base' key args r := by
      intro key args' r' leads'
      rw [leads'.named] at inner
      obtain ⟨r, lookup⟩ := h.lookup_record' leads'.lookup
      generalize named : base.unwrapped = t at inner
      cases inner with
      | named _ _ => exact idle key _ r ⟨named, leads'.fresh, lookup⟩
    rw [branch_of_idle idle, branch_of_idle idle']
    exact .nil
termination_by source.unvisited trail
decreasing_by exact leads.unvisited_lt

theorem heritage_rel (h : source.Rearranged source') (scopes : scope.Rearranged scope')
    (related : r.Rearranged r') :
    List.Forall₂ Inherited (source.heritage scope r) (source'.heritage scope' r') :=
  .cons ⟨related, scopes⟩
    (List.rel_flatMap related.bases fun _ _ bases => h.branch_rel scopes bases)

/-- Own fields of a name correspond, wherever they stand. -/
theorem ownField_rel {p p' : RecordDef × Scope} (h : Inherited p p') (name : String) :
    Option.Rel (fun q q' : FieldDef × Scope => q.1.Rearranged q'.1 ∧ q.2.Rearranged q'.2)
      (ownField name p) (ownField name p') := by
  obtain ⟨mid, order, one⟩ := h.1.fields
  have fields : Option.Rel FieldDef.Rearranged (p.1.fields.find? (·.name = name))
      (p'.1.fields.find? (·.name = name)) := by
    have first : p.1.fields.find? (·.name = name) = mid.find? (·.name = name) := by
      rcases order with same | ⟨perm, distinct⟩
      · rw [same]
      · exact find?_eq_of_perm perm distinct name
    rw [first]
    exact find?_rel one fun f f' related => by rw [related.name]
  exact rel_map fields fun _ _ related => ⟨related, h.2⟩

theorem fieldOf_rel (h : source.Rearranged source') (scopes : scope.Rearranged scope')
    (related : r.Rearranged r') (name : String) :
    Option.Rel (fun q q' : FieldDef × Scope => q.1.Rearranged q'.1 ∧ q.2.Rearranged q'.2)
      (source.fieldOf scope r name) (source'.fieldOf scope' r' name) := by
  rw [fieldOf_eq_findSome?, fieldOf_eq_findSome?]
  exact findSome?_rel (h.heritage_rel scopes related) fun _ _ inherited =>
    ownField_rel inherited name

theorem extraOf_rel (h : source.Rearranged source') (scopes : scope.Rearranged scope')
    (related : r.Rearranged r') :
    Option.Rel (fun q q' : TypeExpr × Scope => q.1.Rearranged q'.1 ∧ q.2.Rearranged q'.2)
      (source.extraOf scope r) (source'.extraOf scope' r') := by
  exact findSome?_rel (h.heritage_rel scopes related) fun _ _ inherited =>
    rel_map inherited.1.extra fun _ _ types => ⟨types, inherited.2⟩

/-! ## The check -/

section

variable {t t' : TypeExpr} {value value' : Json} {left : Nat}

-- what the check follows: the verdict on smaller values
variable (smaller : ∀ (scope : Scope) (left : Nat) (t : TypeExpr) (part : Json),
  part.size < value.size → ∀ (scope' : Scope) (t' : TypeExpr) (part' : Json),
    scope.Rearranged scope' → t.Rearranged t' → part.Reordered part' →
      (source.check scope left t part = [] ↔ source'.check scope' left t' part' = []))

include smaller

theorem check_record_iff (h : source.Rearranged source') {key : TypeKey}
    {args args' : List TypeExpr} (lookup : source.lookup key = some (.record r))
    (scopes : scope.Rearranged scope') (types : List.Forall₂ TypeExpr.Rearranged args args')
    (values : value.Reordered value') :
    source.check scope (left + 1) (.named key args) value = [] ↔
      source'.check scope' (left + 1) (.named key args') value' = [] := by
  obtain ⟨r', lookup', related⟩ := h.lookup_record lookup
  have inside : (scope.enterRecord key r.typeParams args).Rearranged
      (scope'.enterRecord key r'.typeParams args') :=
    related.typeParams ▸ scopes.enterRecord key types r.typeParams
  have field := h.fieldOf_rel inside related
  have extra := h.extraOf_rel inside related
  -- the verdict on a record says of each name what the shape makes of it, without an order
  rw [check_record_eq_nil lookup, check_record_eq_nil lookup']
  refine values.exists_object_iff fun members members' same matched => ?_
  subst same
  refine and_congr ?present (and_congr ?missing ?further)
  case present =>
    refine forall_congr' fun name => ?_
    have each := forall_some_iff_of_rel (field name)
      (P := fun q => ∀ item, Entries.find? members name = some item →
        source.check q.2 expansionLimit q.1.type item = [])
      (Q := fun q => ∀ item, Entries.find? members' name = some item →
        source'.check q.2 expansionLimit q.1.type item = [])
      fun q q' _ fields => forall_some_iff_of_rel (matched.find name) fun item item' found items =>
        smaller _ _ _ item (Json.size_lt_of_find? found) _ _ item' fields.2 fields.1.type items
    simpa only [Prod.forall, imp_forall_iff] using each
  case missing =>
    refine forall_congr' fun name => ?_
    have each := forall_some_iff_of_rel (field name)
      (P := fun q => Entries.find? members name = none → q.1.isOptional = true)
      (Q := fun q => Entries.find? members' name = none → q.1.isOptional = true)
      fun q q' _ fields => imp_congr (eq_none_iff_of_rel (matched.find name))
        (by rw [fields.1.isOptional_eq])
    simpa only [Prod.forall] using each
  case further =>
    refine matched.forall_iff fun name item item' mem items => ?_
    refine imp_congr (eq_none_iff_of_rel (field name)) ?_
    exact exists_some_iff_of_rel extra fun q q' _ types =>
      smaller _ _ _ item (Json.size_lt_of_mem_object mem) _ _ item' types.2 types.1 items

theorem check_list_iff {element element' : TypeExpr} (scopes : scope.Rearranged scope')
    (types : element.Rearranged element') (values : value.Reordered value') :
    source.check scope left (.list (some element)) value = [] ↔
      source'.check scope' left (.list (some element')) value' = [] := by
  rw [check_list_eq_nil, check_list_eq_nil]
  refine values.exists_array_iff fun items items' same one => ?_
  subst same
  exact forall_mem_iff_of_forall₂ one fun item mem item' related =>
    smaller _ _ _ item (Json.size_lt_of_mem_array mem) _ _ item' scopes types related

theorem check_tuple_iff {elements elements' : List TypeExpr} (scopes : scope.Rearranged scope')
    (types : List.Forall₂ TypeExpr.Rearranged elements elements')
    (values : value.Reordered value') :
    source.check scope left (.tuple elements) value = [] ↔
      source'.check scope' left (.tuple elements') value' = [] := by
  rw [check_tuple_eq_nil, check_tuple_eq_nil]
  refine values.exists_array_iff fun items items' same one => ?_
  subst same
  refine and_congr (by rw [one.length_eq, types.length_eq]) ?_
  refine forall_mem_iff_of_forall₂ (forall₂_zip_zip types one) fun p mem p' related => ?_
  have small := Json.size_lt_of_mem_array (List.of_mem_zip mem).2
  exact smaller _ _ _ p.2 small _ _ p'.2 scopes related.1 related.2

theorem check_map_iff {key key' element element' : Option TypeExpr}
    (scopes : scope.Rearranged scope') (keyed : key.isSome = key'.isSome)
    (keys : ∀ t t', key = some t → key' = some t' → t.Rearranged t')
    (elements : Option.Rel TypeExpr.Rearranged element element')
    (values : value.Reordered value') :
    source.check scope left (.map key element) value = [] ↔
      source'.check scope' left (.map key' element') value' = [] := by
  rw [check_map_eq_nil, check_map_eq_nil]
  refine values.exists_object_iff fun members members' same matched => ?_
  subst same
  refine matched.forall_iff fun name item item' mem items => and_congr ?_ (and_congr ?_ ?_)
  · rw [TypeExpr.Rearranged.keyKindFindings_eq keyed keys]
  · exact forall_some_iff_of_rel (TypeExpr.Rearranged.keyType?_rel keyed keys) fun t t' _ types =>
      smaller _ _ _ _ (Json.key_size_lt_of_mem_object mem) _ _ _ scopes types (.refl _)
  · exact forall_some_iff_of_rel elements fun t t' _ types =>
      smaller _ _ _ item (Json.size_lt_of_mem_object mem) _ _ item' scopes types items

end

/-- One verdict on values that are equal up to the order of members, as types that are the same but
for the order of fields and union members. -/
theorem check_iff (h : source.Rearranged source') (scope : Scope) (left : Nat) (t : TypeExpr)
    (value : Json) : ∀ (scope' : Scope) (t' : TypeExpr) (value' : Json), scope.Rearranged scope' →
      t.Rearranged t' → value.Reordered value' →
        (source.check scope left t value = [] ↔ source'.check scope' left t' value' = []) := by
  induction scope, left, t, value using check_induction with
  | step scope left t value smaller fewer closed component =>
  intro scope' t' value' scopes types values
  cases types with
  | required inner =>
    rw [check_required, check_required]
    exact component left _ (Nat.le_refl _) .required scope' _ value' scopes inner values
  | notRequired inner =>
    rw [check_notRequired, check_notRequired]
    exact component left _ (Nat.le_refl _) .notRequired scope' _ value' scopes inner values
  | documented inner =>
    rw [check_documented, check_documented]
    exact component left _ (Nat.le_refl _) .documented scope' _ value' scopes inner values
  | union perm length each =>
    rw [check_union_eq_nil, check_union_eq_nil]
    have members := exists_mem_iff_of_forall₂ (TypeExpr.Rearranged.forall₂ length each)
      fun m mem m' types => component (left - 1) m (Nat.sub_le _ _)
        (.union (perm.mem_iff.mpr mem)) scope' m' value' scopes types values
    simpa only [perm.mem_iff] using members
  | self =>
    have this := scopes.this
    cases bound : scope.this with
    | none =>
      rw [bound] at this
      rw [check_self_of_none bound, check_self_of_none (rel_none_left this)]
    | some c =>
      rw [bound] at this
      obtain ⟨c', bound', related⟩ := rel_some_left this
      rw [check_self_of_some bound, check_self_of_some bound']
      exact closed _ c (Nat.sub_le _ _) rfl scope' _ value' scopes related values
  | @var name =>
    have meaning := scopes.bindings name
    cases bound : scope.bindings.find? name with
    | none =>
      rw [bound] at meaning
      rw [check_var_of_none bound, check_var_of_none (rel_none_left meaning)]
    | some c =>
      rw [bound] at meaning
      obtain ⟨c', bound', related⟩ := rel_some_left meaning
      rw [check_var_of_some bound, check_var_of_some bound']
      exact closed _ c (Nat.sub_le _ _) rfl scope' _ value' scopes related values
  | @named key args args' length each =>
    have args_rel := TypeExpr.Rearranged.forall₂ length each
    cases left with
    | zero => exact iff_of_false check_named_zero check_named_zero
    | succ left =>
      have definition := h key
      cases lookup : source.lookup key with
      | none =>
        rw [lookup] at definition
        rw [check_undescribed lookup, check_undescribed (rel_none_left definition)]
      | some d =>
        rw [lookup] at definition
        obtain ⟨d', lookup', related⟩ := rel_some_left definition
        cases related with
        | record _ => exact h.check_record_iff smaller lookup scopes args_rel values
        | opaqueType =>
          rw [check_opaque_eq_nil lookup, check_opaque_eq_nil lookup', values.admits_eq]
        | @aliased a a' params target =>
          rw [check_aliased lookup, check_aliased lookup', ← params]
          exact fewer _ left _ (Nat.lt_succ_self _) _ _ value'
            (scopes.enter args_rel a.typeParams) target values
  | string => rw [check_string_eq_nil, check_string_eq_nil, values.admits_eq]
  | number => rw [check_number_eq_nil, check_number_eq_nil, values.admits_eq]
  | integer => rw [check_integer_eq_nil, check_integer_eq_nil, values.admits_eq]
  | boolean => rw [check_boolean_eq_nil, check_boolean_eq_nil, values.admits_eq]
  | any => rw [check_any, check_any]
  | null => rw [check_null_eq_nil, check_null_eq_nil, values.eq_null_iff]
  | never => exact iff_of_false check_never_ne_nil check_never_ne_nil
  | literal => simp only [check_literal_eq_nil, values.literal_admits_eq]
  | listAny => rw [check_listAny_eq_nil, check_listAny_eq_nil, values.admits_eq]
  | list element => exact check_list_iff smaller scopes element values
  | variadic element =>
    rw [check_variadic_eq_list, check_variadic_eq_list]
    exact check_list_iff smaller scopes element values
  | tuple length each =>
    exact check_tuple_iff smaller scopes (TypeExpr.Rearranged.forall₂ length each) values
  | map keyed valued keys elements =>
    exact check_map_iff smaller scopes keyed keys
      (TypeExpr.Rearranged.option_rel valued elements) values

theorem refl (source : Registry) : source.Rearranged source := by
  intro key
  have fields : ∀ fs : List FieldDef, List.Forall₂ FieldDef.Rearranged fs fs := fun fs =>
    List.forall₂_same.mpr fun f _ => ⟨rfl, .refl f.type, rfl⟩
  have extra : ∀ o : Option TypeExpr, Option.Rel TypeExpr.Rearranged o o := fun o =>
    TypeExpr.Rearranged.option_rel rfl (by rintro t _ rfl ⟨⟩; exact .refl t)
  cases source.lookup key with
  | none => exact .none
  | some d =>
    refine .some ?_
    cases d with
    | record r =>
      exact .record ⟨rfl, List.forall₂_same.mpr fun t _ => .refl t, extra r.extra,
        r.fields, .inl rfl, fields r.fields⟩
    | aliased a => exact .aliased rfl (.refl a.target)
    | opaqueType name => exact .opaqueType

end Registry.Rearranged

/-- No order decides a verdict: not that of the members of objects in a value, and not that of the
fields of records, whose names differ, and of the members of unions in what the value is held
against. -/
theorem Registry.findings_eq_nil_iff_of_rearranged :
    (∀ (source : Registry) (t : TypeExpr) (v w : Json), v.Reordered w →
      (source.findings t v = [] ↔ source.findings t w = [])) ∧
    ∀ (source source' : Registry) (t t' : TypeExpr), source.Rearranged source' →
      t.Rearranged t' → ∀ v : Json, (source.findings t v = [] ↔ source'.findings t' v = []) :=
  ⟨fun source t v w values => (Rearranged.refl source).check_iff .empty expansionLimit t v .empty t
      w (.refl _) (.refl t) values,
    fun _ _ t t' sources types v => sources.check_iff .empty expansionLimit t v .empty t' v
      (.refl _) types (.refl v)⟩

/-- A couple of a left and a right side. -/
def Registry.couples (fields : List FieldDef) : Registry :=
  ⟨[("Couple", .record { name := "Couple", fields := fields })], []⟩

/-- The members of an object, the fields of a record and the members of a union the other way
round. -/
theorem Registry.findings_couples :
    let left : FieldDef := ⟨"left", .integer, false, none⟩
    let right := fun sides : List TypeExpr => FieldDef.mk "right" (.union sides) false none
    let source := couples [left, right [.string, .null]]
    let source' := couples [right [.null, .string], left]
    let v := Json.object [("left", .number .zero), ("right", .null)]
    let w := Json.object [("right", .null), ("left", .number .zero)]
    v.Reordered w ∧ source.Rearranged source' ∧
      (source.findings (.reference "Couple") v = [] ↔
        source.findings (.reference "Couple") w = []) ∧
      (source.findings (.reference "Couple") v = [] ↔
        source'.findings (.reference "Couple") v = []) := by
  intro left right source source' v w
  have values : v.Reordered w :=
    @Json.Reordered.object _ [("left", .number .zero), ("right", .null)] _ (by decide) rfl
      (by simp) (by simp [Json.Reordered.refl]) (.swap _ _ [])
  have sides : (TypeExpr.union [.string, .null]).Rearranged (.union [.null, .string]) :=
    @TypeExpr.Rearranged.union _ [.null, .string] _ (.swap _ _ []) rfl
      (by simp [TypeExpr.Rearranged.refl])
  have couple : RecordDef.Rearranged { name := "Couple", fields := [left, right [.string, .null]] }
      { name := "Couple", fields := [right [.null, .string], left] } :=
    ⟨rfl, .nil, .none, [right [.string, .null], left], .inr ⟨.swap _ _ [], by decide⟩,
      .cons ⟨rfl, sides, rfl⟩ (.cons ⟨rfl, .refl _, rfl⟩ .nil)⟩
  have sources : source.Rearranged source' := by
    intro key
    by_cases same : key = "Couple"
    · subst same
      exact .some (.record couple)
    · have missing : ∀ fields, (couples fields).lookup key = none := fun fields =>
        Entries.find?_eq_none.mpr fun mem => same (List.mem_singleton.mp mem)
      rw [missing, missing]
      exact .none
  exact ⟨values, sources, findings_eq_nil_iff_of_rearranged.1 source _ v w values,
    findings_eq_nil_iff_of_rearranged.2 source source' _ _ sources (.refl _) v⟩

end SchemaDialogue
