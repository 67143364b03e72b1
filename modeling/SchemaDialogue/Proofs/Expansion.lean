import SchemaDialogue.Proofs.Conformance

/-!
# Chains of expansions

An expansion goes from an alias, a parameter, `self` or a union to what it stands for, without
descending into the data. The check gives up on a chain of `expansionLimit` expansions.

* **chains**: `Expands`, with the number of expansions;
* **descents**: `Descends`, from a value to one of its parts;
* **short chains**: no place that the check of a value comes to starts a chain that reaches the
  limit (`ShortChains`).

Where chains are short the limit plays no part (`findings_eq_nil_iff_conforms`).
-/

namespace SchemaDialogue

/-- A chain of expansions, with their number. Wrappers are no expansions. -/
inductive Expands (source : Registry) : Nat → Scope → TypeExpr → Scope → TypeExpr → Prop
  | refl {scope t} : Expands source 0 scope t scope t
  | required {n scope inner scope' t'} : Expands source n scope inner scope' t' →
      Expands source n scope (.required inner) scope' t'
  | notRequired {n scope inner scope' t'} : Expands source n scope inner scope' t' →
      Expands source n scope (.notRequired inner) scope' t'
  | documented {n scope doc inner scope' t'} : Expands source n scope inner scope' t' →
      Expands source n scope (.documented doc inner) scope' t'
  | self {n scope this scope' t'} : scope.this = some this →
      Expands source n scope this.1 scope' t' → Expands source (n + 1) scope .self scope' t'
  | var {n scope name bound scope' t'} : scope.bindings.find? name = some bound →
      Expands source n scope bound.1 scope' t' → Expands source (n + 1) scope (.var name) scope' t'
  | union {n scope members m scope' t'} : m ∈ members → Expands source n scope m scope' t' →
      Expands source (n + 1) scope (.union members) scope' t'
  | aliased {n scope key args a scope' t'} : source.lookup key = some (.aliased a) →
      Expands source n (scope.enter a.typeParams args) a.target scope' t' →
      Expands source (n + 1) scope (.named key args) scope' t'

/-- A descent into the data: the part of a value that is held against a part of a type. -/
inductive Descends (source : Registry) :
    Scope → TypeExpr → Json → Scope → TypeExpr → Json → Prop
  | field {scope key args r name f inner members item} : source.lookup key = some (.record r) →
      source.fieldOf (scope.enterRecord key r.typeParams args) r name = some (f, inner) →
      Entries.find? members name = some item →
      Descends source scope (.named key args) (.object members) inner f.type item
  | extra {scope key args r name extra inner} {members : List (String × Json)} {item} :
      source.lookup key = some (.record r) → (name, item) ∈ members →
      source.fieldOf (scope.enterRecord key r.typeParams args) r name = none →
      source.extraOf (scope.enterRecord key r.typeParams args) r = some (extra, inner) →
      Descends source scope (.named key args) (.object members) inner extra item
  | list {scope element items item} : item ∈ items →
      Descends source scope (.list (some element)) (.array items) scope element item
  | variadic {scope element items item} : item ∈ items →
      Descends source scope (.variadic element) (.array items) scope element item
  | tuple {scope elements items p} : p ∈ elements.zip items →
      Descends source scope (.tuple elements) (.array items) scope p.1 p.2
  | key {scope key element name narrow} {members : List (String × Json)} {item} :
      (name, item) ∈ members → keyType? key = some narrow →
      Descends source scope (.map key element) (.object members) scope narrow (.string name)
  | value {scope key element name} {members : List (String × Json)} {item} :
      (name, item) ∈ members →
      Descends source scope (.map key (some element)) (.object members) scope element item

/-- The places that the check of a value comes to. -/
inductive Visits (source : Registry) :
    Scope → TypeExpr → Json → Scope → TypeExpr → Json → Prop
  | refl {scope t value} : Visits source scope t value scope t value
  | expand {n scope t value scope' t' scope'' t'' value''} : Expands source n scope t scope' t' →
      Visits source scope' t' value scope'' t'' value'' →
      Visits source scope t value scope'' t'' value''
  | descend {scope t value scope' t' value' scope'' t'' value''} :
      Descends source scope t value scope' t' value' →
      Visits source scope' t' value' scope'' t'' value'' →
      Visits source scope t value scope'' t'' value''

/-- No place that the check of the value comes to starts a chain of as many expansions as the limit
says. -/
def ShortChains (source : Registry) (scope : Scope) (t : TypeExpr) (value : Json) : Prop :=
  ∀ scope' t' value', Visits source scope t value scope' t' value' →
    ∀ n scope'' t'', Expands source n scope' t' scope'' t'' → n < expansionLimit

variable {source : Registry} {scope scope' : Scope} {t t' : TypeExpr} {value value' : Json}

theorem ShortChains.expand {n : Nat} (short : ShortChains source scope t value)
    (h : Expands source n scope t scope' t') : ShortChains source scope' t' value :=
  fun _ _ _ visits => short _ _ _ (.expand h visits)

theorem ShortChains.descend (short : ShortChains source scope t value)
    (h : Descends source scope t value scope' t' value') : ShortChains source scope' t' value' :=
  fun _ _ _ visits => short _ _ _ (.descend h visits)

theorem ShortChains.lt {n : Nat} (short : ShortChains source scope t value)
    (h : Expands source n scope t scope' t') : n < expansionLimit :=
  short _ _ _ .refl _ _ _ h

theorem Expands.trans {n m : Nat} {scope'' : Scope} {t'' : TypeExpr}
    (h : Expands source n scope t scope' t') (h' : Expands source m scope' t' scope'' t'') :
    Expands source (n + m) scope t scope'' t'' := by
  have shift : ∀ n, n + 1 + m = n + m + 1 := fun n => Nat.add_right_comm n 1 m
  induction h with
  | refl =>
    rw [Nat.zero_add]
    exact h'
  | required _ ih => exact .required (ih h')
  | notRequired _ ih => exact .notRequired (ih h')
  | documented _ ih => exact .documented (ih h')
  | self h _ ih => exact shift _ ▸ .self h (ih h')
  | var h _ ih => exact shift _ ▸ .var h (ih h')
  | union mem _ ih => exact shift _ ▸ .union mem (ih h')
  | aliased h _ ih => exact shift _ ▸ .aliased h (ih h')

/-- Chains are short when those that start here are, and those after each descent. -/
theorem ShortChains.intro
    (here : ∀ n scope' t', Expands source n scope t scope' t' → n < expansionLimit)
    (onward : ∀ n scope' t' scope'' t'' value'', Expands source n scope t scope' t' →
      Descends source scope' t' value scope'' t'' value'' →
      ShortChains source scope'' t'' value'') :
    ShortChains source scope t value := by
  intro scope₁ t₁ value₁ visits
  induction visits with
  | refl => exact here
  | expand chain _ ih =>
    refine ih ?_ ?_
    · intro n _ _ h
      have := here _ _ _ (chain.trans h)
      omega
    · exact fun n _ _ _ _ _ h => onward _ _ _ _ _ _ (chain.trans h)
  | descend step visits _ => exact onward _ _ _ _ _ _ .refl step _ _ _ visits

/-- A record stands for nothing but itself. -/
theorem Expands.of_record {n : Nat} {key : TypeKey} {args : List TypeExpr} {r : RecordDef}
    (lookup : source.lookup key = some (.record r))
    (h : Expands source n scope (.named key args) scope' t') :
    n = 0 ∧ scope' = scope ∧ t' = .named key args := by
  cases h with
  | refl => exact ⟨rfl, rfl, rfl⟩
  | aliased lookup' _ => cases lookup.symm.trans lookup'

/-- Chains are short at a record when they are after each descent from it. -/
theorem ShortChains.of_record {key : TypeKey} {args : List TypeExpr} {r : RecordDef}
    (lookup : source.lookup key = some (.record r))
    (onward : ∀ scope' t' value', Descends source scope (.named key args) value scope' t' value' →
      ShortChains source scope' t' value') :
    ShortChains source scope (.named key args) value := by
  refine .intro ?_ ?_
  · intro n _ _ h
    rw [(h.of_record lookup).1]
    decide
  · intro _ _ _ _ _ _ chain step
    obtain ⟨_, rfl, rfl⟩ := chain.of_record lookup
    exact onward _ _ _ step

/-- Where chains are short, what conforms does so within the limit. -/
theorem Conforms.within_limit {limit : ℕ∞} {used : Nat}
    (h : Conforms source limit used scope t value) (short : ShortChains source scope t value)
    (reserve : ∀ n scope' t', Expands source n scope t scope' t' → used + n < expansionLimit) :
    Conforms source expansionLimit used scope t value := by
  -- one more expansion
  have next : ∀ {used scope t scope' t'},
      (∀ n scope'' t'', Expands source n scope' t' scope'' t'' →
        Expands source (n + 1) scope t scope'' t'') →
      (∀ n scope'' t'', Expands source n scope t scope'' t'' → used + n < expansionLimit) →
      ∀ n scope'' t'', Expands source n scope' t' scope'' t'' → used + 1 + n < expansionLimit := by
    intro used scope t scope' t' step reserve n scope'' t'' h
    have := reserve (n + 1) scope'' t'' (step n scope'' t'' h)
    omega
  -- after a descent all expansions are there again
  have again : ∀ {scope t value}, ShortChains source scope t value →
      ∀ n scope' t', Expands source n scope t scope' t' → 0 + n < expansionLimit := by
    intro scope t value short n scope' t' h
    rw [Nat.zero_add]
    exact short.lt h
  induction h with
  | any => exact .any
  | string => exact .string
  | number => exact .number
  | integer h => exact .integer h
  | boolean => exact .boolean
  | null => exact .null
  | literal mem admits => exact .literal mem admits
  | required _ ih =>
    exact .required (ih (short.expand (.required .refl)) fun n _ _ h => reserve n _ _ (.required h))
  | notRequired _ ih =>
    refine .notRequired (ih (short.expand (.notRequired .refl)) fun n _ _ h => ?_)
    exact reserve n _ _ (.notRequired h)
  | documented _ ih =>
    refine .documented (ih (short.expand (.documented .refl)) fun n _ _ h => ?_)
    exact reserve n _ _ (.documented h)
  | selfFree h => exact .selfFree h
  | self h _ _ ih =>
    refine .self h (Nat.cast_lt.mpr (reserve 1 _ _ (.self h .refl))) ?_
    exact ih (short.expand (.self h .refl)) (next (fun _ _ _ => .self h) reserve)
  | varFree h => exact .varFree h
  | var h _ _ ih =>
    refine .var h (Nat.cast_lt.mpr (reserve 1 _ _ (.var h .refl))) ?_
    exact ih (short.expand (.var h .refl)) (next (fun _ _ _ => .var h) reserve)
  | union mem _ _ ih =>
    refine .union mem (Nat.cast_lt.mpr (reserve 1 _ _ (.union mem .refl))) ?_
    exact ih (short.expand (.union mem .refl)) (next (fun _ _ _ => .union mem) reserve)
  | undescribed h => exact .undescribed h
  | opaqueType h => exact .opaqueType h
  | aliased h _ _ ih =>
    refine .aliased h (Nat.cast_lt.mpr (reserve 1 _ _ (.aliased h .refl))) ?_
    exact ih (short.expand (.aliased h .refl)) (next (fun _ _ _ => .aliased h) reserve)
  | record h _ missing further _ present extra =>
    refine .record h ?_ missing further ?_
    · intro name f inner item hfield hitem
      have short' := short.descend (.field h hfield hitem)
      exact present name f inner item hfield hitem short' (again short')
    · intro name item t inner hmem hfield hextra
      have short' := short.descend (.extra h hmem hfield hextra)
      exact extra name item t inner hmem hfield hextra short' (again short')
  | listAny => exact .listAny
  | list _ ih =>
    refine .list fun item hitem => ?_
    have short' := short.descend (.list hitem)
    exact ih item hitem short' (again short')
  | variadic _ ih =>
    refine .variadic fun item hitem => ?_
    have short' := short.descend (.variadic hitem)
    exact ih item hitem short' (again short')
  | tuple length _ ih =>
    refine .tuple length fun p hp => ?_
    have short' := short.descend (.tuple hp)
    exact ih p hp short' (again short')
  | map kinds _ _ keys items =>
    refine .map kinds ?_ ?_
    · intro name item narrow hmem hkey
      have short' := short.descend (.key hmem hkey)
      exact keys name item narrow hmem hkey short' (again short')
    · intro name item t hmem helement
      subst helement
      have short' := short.descend (.value hmem)
      exact items name item t hmem rfl short' (again short')

/-- Where chains are short, the values without findings are those that conform. -/
theorem Registry.findings_eq_nil_iff_conforms (short : ShortChains source .empty t value) :
    source.findings t value = [] ↔ Conforms source ⊤ 0 .empty t value := by
  constructor
  · exact fun hnil => conforms_of_check_eq_nil .empty expansionLimit t value hnil 0
  · intro h
    have within := h.within_limit short fun n _ _ chain => by
      rw [Nat.zero_add]
      exact short.lt chain
    exact check_eq_nil_of_conforms within (by decide)

end SchemaDialogue
