import SchemaDialogue.Proofs.Conformance
import SchemaDialogue.Proofs.Parts

/-!
# Instantiating a type expression

The check does not substitute the arguments of a generic type in its definition: a parameter is
looked up in the scope where it is met. `TypeExpr.instantiate` is the textual reading, which writes
the arguments in the place of the parameters. The two readings have the same values
(`Conforms.instantiate`, `Conforms.of_instantiate`) as long as no parameter stands as the key type
of a map, since such keys are not checked against what the parameter means.

Looking up a parameter is an expansion and its argument in its place is none, so the textual reading
needs no more expansions than the other one.
-/

namespace SchemaDialogue

namespace TypeExpr

mutual

/-- Write arguments in the place of type parameters. -/
def instantiate (argument : String → Option TypeExpr) : TypeExpr → TypeExpr
  | .var name => (argument name).getD (.var name)
  | .named key args => .named key (instantiateAll argument args)
  | .list element => .list (instantiateOption argument element)
  | .map key value => .map (instantiateOption argument key) (instantiateOption argument value)
  | .tuple elements => .tuple (instantiateAll argument elements)
  | .variadic element => .variadic (instantiate argument element)
  | .union members => .union (instantiateAll argument members)
  | .required inner => .required (instantiate argument inner)
  | .notRequired inner => .notRequired (instantiate argument inner)
  | .documented doc inner => .documented doc (instantiate argument inner)
  | .string => .string
  | .number => .number
  | .integer => .integer
  | .boolean => .boolean
  | .any => .any
  | .null => .null
  | .never => .never
  | .self => .self
  | .literal choices => .literal choices

/-- Instantiate every type expression. -/
def instantiateAll (argument : String → Option TypeExpr) : List TypeExpr → List TypeExpr
  | [] => []
  | t :: rest => instantiate argument t :: instantiateAll argument rest

/-- Instantiate a type expression that may be missing. -/
def instantiateOption (argument : String → Option TypeExpr) : Option TypeExpr → Option TypeExpr
  | none => none
  | some t => some (instantiate argument t)

end

attribute [local simp] instantiate

variable {argument : String → Option TypeExpr}

@[simp] theorem instantiateAll_eq_map (ts : List TypeExpr) :
    instantiateAll argument ts = ts.map (instantiate argument) := by
  induction ts with
  | nil => rfl
  | cons t rest ih => rw [instantiateAll, ih, List.map_cons]

@[simp] theorem instantiateOption_eq_map (o : Option TypeExpr) :
    instantiateOption argument o = o.map (instantiate argument) := by
  cases o <;> rfl

/-- No type parameter stands as the key type of a map. -/
def PlainKeys (t : TypeExpr) : Prop :=
  ∀ key value, Part (.map (some key) value) t → ∀ name, key.unwrapped ≠ .var name

theorem PlainKeys.part {t u : TypeExpr} (h : PlainKeys t) (part : Part u t) : PlainKeys u :=
  fun key value hpart => h key value (hpart.trans part)

/-- Wrappers stay around what they wrap. -/
theorem unwrapped_instantiate (t : TypeExpr) (h : ∀ name, t.unwrapped ≠ .var name) :
    (t.instantiate argument).unwrapped = t.unwrapped.instantiate argument := by
  induction t using TypeExpr.induction with
  | var name => exact absurd rfl (h name)
  | required inner ih => exact ih h
  | notRequired inner ih => exact ih h
  | documented doc inner ih => exact ih h
  | _ => simp [unwrapped]

end TypeExpr

/-- The keys of a map are judged alike before and after. -/
theorem keyKindFindings_instantiate {argument : String → Option TypeExpr} {key : Option TypeExpr}
    (h : ∀ t, key = some t → ∀ name, t.unwrapped ≠ .var name) (name : String) :
    keyKindFindings (key.map (TypeExpr.instantiate argument)) name = keyKindFindings key name := by
  cases key with
  | none => rfl
  | some t =>
    have hvar := h t rfl
    unfold keyKindFindings
    simp only [Option.map_some, TypeExpr.unwrapped_instantiate t hvar]
    cases hkey : t.unwrapped with
    | var x => exact absurd hkey (hvar x)
    | _ => simp only [TypeExpr.instantiate]

theorem keyType?_instantiate {argument : String → Option TypeExpr} {key : Option TypeExpr}
    (h : ∀ t, key = some t → ∀ name, t.unwrapped ≠ .var name) :
    keyType? (key.map (TypeExpr.instantiate argument)) =
      (keyType? key).map (TypeExpr.instantiate argument) := by
  cases key with
  | none => rfl
  | some t =>
    have hvar := h t rfl
    unfold keyType?
    simp only [Option.map_some, TypeExpr.unwrapped_instantiate t hvar]
    cases hkey : t.unwrapped with
    | var x => exact absurd hkey (hvar x)
    | _ => simp only [TypeExpr.instantiate, Option.map_none, Option.map_some]

/-! ## Arguments in a scope -/

/-- The arguments are what the parameters are bound to; an unbound one has no argument, or `any`. -/
def Binds (bindings : Entries ClosedType) (argument : String → Option TypeExpr) : Prop :=
  ∀ name,
    match bindings.find? name with
    | some bound => argument name = some bound.1
    | none => argument name = none ∨ argument name = some .any

variable {bindings : Entries ClosedType} {argument : String → Option TypeExpr}
  {this : Option ClosedType}

theorem Binds.of_some (h : Binds bindings argument) {name : String} {bound : ClosedType}
    (found : bindings.find? name = some bound) : argument name = some bound.1 := by
  have := h name
  rw [found] at this
  exact this

theorem Binds.of_none (h : Binds bindings argument) {name : String}
    (free : bindings.find? name = none) : argument name = none ∨ argument name = some .any := by
  have := h name
  rw [free] at this
  exact this

/-- What an instance means outside of the definition is what the original means inside. -/
theorem Scope.substitute_instantiate (h : Binds bindings argument) (t : TypeExpr) :
    Scope.substitute ⟨[], this⟩ (t.instantiate argument) = Scope.substitute ⟨bindings, this⟩ t := by
  induction t using TypeExpr.induction with
  | var name =>
    rw [TypeExpr.instantiate, substitute, meaning]
    split
    · rename_i bound found
      rw [h.of_some found, Option.getD_some]
      exact substitute_of_closed _ bound.1 bound.2
    · rename_i free
      rcases h.of_none free with hnone | hany
      · rw [hnone]
        rfl
      · rw [hany]
        rfl
  | named key args ih =>
    simp only [TypeExpr.instantiate, TypeExpr.instantiateAll_eq_map, substitute,
      substituteAll_eq_map, List.map_map]
    exact congrArg (TypeExpr.named key) (List.map_congr_left ih)
  | list element ih =>
    cases element with
    | none => rfl
    | some t =>
      simp only [TypeExpr.instantiate, TypeExpr.instantiateOption, substitute, substituteOption,
        ih t rfl]
  | map key value ihk ihv =>
    simp only [TypeExpr.instantiate, TypeExpr.instantiateOption_eq_map, substitute,
      substituteOption_eq_map, Option.map_map]
    congr 1
    · cases key with
      | none => rfl
      | some t => exact congrArg some (ihk t rfl)
    · cases value with
      | none => rfl
      | some t => exact congrArg some (ihv t rfl)
  | tuple elements ih =>
    simp only [TypeExpr.instantiate, TypeExpr.instantiateAll_eq_map, substitute,
      substituteAll_eq_map, List.map_map]
    exact congrArg TypeExpr.tuple (List.map_congr_left ih)
  | union members ih =>
    simp only [TypeExpr.instantiate, TypeExpr.instantiateAll_eq_map, substitute,
      substituteAll_eq_map, List.map_map]
    exact congrArg TypeExpr.union (List.map_congr_left ih)
  | variadic element ih => rw [TypeExpr.instantiate, substitute, substitute, ih]
  | required inner ih => rw [TypeExpr.instantiate, substitute, substitute, ih]
  | notRequired inner ih => rw [TypeExpr.instantiate, substitute, substitute, ih]
  | documented doc inner ih => rw [TypeExpr.instantiate, substitute, substitute, ih]
  | _ => rfl

theorem Scope.map_substitute_instantiate (h : Binds bindings argument) (ts : List TypeExpr) :
    (ts.map (TypeExpr.instantiate argument)).map (Scope.substitute ⟨[], this⟩) =
      ts.map (Scope.substitute ⟨bindings, this⟩) := by
  rw [List.map_map]
  exact List.map_congr_left fun t _ => substitute_instantiate h t

namespace Conforms

variable {source : Registry} {limit : ℕ∞} {used : Nat} {t : TypeExpr} {value : Json}

/-- The values of a closed type do not depend on what parameters are bound to. -/
theorem rebind {s s' : Scope} (h : Conforms source limit used s t value)
    (closed : t.isClosed = true) (this : s.this = s'.this) :
    Conforms source limit used s' t value := by
  have same : ∀ {s : Scope} {args : List TypeExpr}, TypeExpr.allClosed args = true →
      s.this = s'.this → args.map s.substitute = args.map s'.substitute := by
    intro s args closed _
    refine List.map_congr_left fun a ha => ?_
    have ha := TypeExpr.allClosed_iff.mp closed a ha
    rw [s.substitute_of_closed a ha, s'.substitute_of_closed a ha]
  induction h with
  | any => exact .any
  | string => exact .string
  | number => exact .number
  | integer h => exact .integer h
  | boolean => exact .boolean
  | null => exact .null
  | literal mem admits => exact .literal mem admits
  | required _ ih => exact .required (ih closed this)
  | notRequired _ ih => exact .notRequired (ih closed this)
  | documented _ ih => exact .documented (ih closed this)
  | selfFree _ => cases closed
  | self _ _ _ _ => cases closed
  | varFree _ => cases closed
  | var _ _ _ _ => cases closed
  | union mem lt _ ih =>
    exact .union mem lt (ih (TypeExpr.allClosed_iff.mp closed _ mem) this)
  | undescribed h => exact .undescribed h
  | opaqueType h => exact .opaqueType h
  | aliased h lt inner _ =>
    refine .aliased h lt ?_
    rw [← Scope.enter_congr (same closed this) this]
    exact inner
  | record h present missing further extra _ _ =>
    rw [Scope.enterRecord_congr (same closed this)] at present missing further extra
    exact .record h present missing further extra
  | listAny => exact .listAny
  | list _ ih => exact .list fun item hitem => ih item hitem closed this
  | variadic _ ih => exact .variadic fun item hitem => ih item hitem closed this
  | tuple length _ ih =>
    refine .tuple length fun p hp => ?_
    exact ih p hp (TypeExpr.allClosed_iff.mp closed _ (List.of_mem_zip hp).1) this
  | map kinds _ _ keys items =>
    rw [TypeExpr.isClosed, Bool.and_eq_true, TypeExpr.optionClosed_iff,
      TypeExpr.optionClosed_iff] at closed
    refine .map kinds ?_ ?_
    · intro name item narrow hmem hkey
      obtain ⟨t, ht, rfl⟩ := unwrapped_of_keyType? hkey
      refine keys name item _ hmem hkey ?_ this
      rw [TypeExpr.isClosed_unwrapped]
      exact closed.1 t ht
    · intro name item t hmem helement
      exact items name item t hmem helement (closed.2 t helement) this

/-- What conforms to a type conforms to its instance, in a scope without parameters. -/
theorem instantiate {scope : Scope} (h : Conforms source limit used scope t value)
    (binds : Binds scope.bindings argument) (plain : t.PlainKeys) :
    Conforms source limit used ⟨[], scope.this⟩ (t.instantiate argument) value := by
  -- what is referred to is entered with the same meaning
  have same : ∀ {scope : Scope} {args : List TypeExpr}, Binds scope.bindings argument →
      args.map scope.substitute =
        (args.map (TypeExpr.instantiate argument)).map (Scope.substitute ⟨[], scope.this⟩) :=
    fun binds => (Scope.map_substitute_instantiate binds _).symm
  induction h with
  | any => exact .any
  | string => exact .string
  | number => exact .number
  | integer h => exact .integer h
  | boolean => exact .boolean
  | null => exact .null
  | literal mem admits => exact .literal mem admits
  | required _ ih => exact .required (ih binds (plain.part (.required .refl)))
  | notRequired _ ih => exact .notRequired (ih binds (plain.part (.notRequired .refl)))
  | documented _ ih => exact .documented (ih binds (plain.part (.documented .refl)))
  | selfFree h => exact .selfFree h
  | @self used scope this value h lt inner _ =>
    -- `this` is closed: it means the same without the parameters
    exact .self h lt (inner.rebind this.2 rfl)
  | @varFree used scope name value h =>
    rw [TypeExpr.instantiate]
    rcases binds.of_none h with hnone | hany
    · rw [hnone]
      exact .varFree rfl
    · rw [hany]
      exact .any
  | @var used scope name bound value h _ inner _ =>
    have outside : Conforms source limit (used + 1) ⟨[], scope.this⟩ bound.1 value :=
      inner.rebind bound.2 rfl
    rw [TypeExpr.instantiate, binds.of_some h, Option.getD_some]
    exact outside.mono (Nat.le_succ _)
  | union mem lt _ ih =>
    rw [TypeExpr.instantiate, TypeExpr.instantiateAll_eq_map]
    refine .union (List.mem_map_of_mem mem) lt ?_
    exact ih binds (plain.part (.union mem .refl))
  | undescribed h => exact .undescribed h
  | opaqueType h => exact .opaqueType h
  | @aliased used scope key args a value h lt inner _ =>
    have entered : scope.enter a.typeParams args = Scope.enter ⟨[], scope.this⟩ a.typeParams
        (args.map (TypeExpr.instantiate argument)) := Scope.enter_congr (same binds) rfl _
    rw [entered] at inner
    rw [TypeExpr.instantiate, TypeExpr.instantiateAll_eq_map]
    exact .aliased h lt inner
  | record h present missing further extra _ _ =>
    rw [Scope.enterRecord_congr (same binds)] at present missing further extra
    rw [TypeExpr.instantiate, TypeExpr.instantiateAll_eq_map]
    exact .record h present missing further extra
  | listAny => exact .listAny
  | list _ ih =>
    exact .list fun item hitem => ih item hitem binds (plain.part (.list .refl))
  | variadic _ ih =>
    exact .variadic fun item hitem => ih item hitem binds (plain.part (.variadic .refl))
  | tuple length _ ih =>
    rw [TypeExpr.instantiate, TypeExpr.instantiateAll_eq_map]
    refine .tuple (by rw [length, List.length_map]) fun p hp => ?_
    rw [List.zip_map_left] at hp
    obtain ⟨q, hq, rfl⟩ := List.mem_map.mp hp
    exact ih q hq binds (plain.part (.tuple (List.of_mem_zip hq).1 .refl))
  | @map used scope key element members kinds _ _ keys items =>
    rw [TypeExpr.instantiate, TypeExpr.instantiateOption_eq_map,
      TypeExpr.instantiateOption_eq_map]
    have direct : ∀ t, key = some t → ∀ name, t.unwrapped ≠ .var name := by
      rintro t rfl
      exact plain t _ .refl
    refine .map ?_ ?_ ?_
    · intro name item hmem
      rw [keyKindFindings_instantiate direct]
      exact kinds name item hmem
    · intro name item narrow hmem hkey
      rw [keyType?_instantiate direct] at hkey
      obtain ⟨narrow', hkey', rfl⟩ := Option.map_eq_some_iff.mp hkey
      refine keys name item narrow' hmem hkey' binds ?_
      obtain ⟨t, rfl, rfl⟩ := unwrapped_of_keyType? hkey'
      exact plain.part (.key (.unwrapped t))
    · intro name item t' hmem helement
      obtain ⟨t, rfl, rfl⟩ := Option.map_eq_some_iff.mp helement
      exact items name item t hmem rfl binds (plain.part (.value .refl))

/-- What conforms to an instance conforms to the original where the parameters are bound. -/
theorem of_instantiate {scope : Scope} (binds : Binds scope.bindings argument)
    (plain : t.PlainKeys)
    (h : Conforms source ⊤ used ⟨[], scope.this⟩ (t.instantiate argument) value) :
    Conforms source ⊤ used scope t value := by
  have lt : ∀ used : Nat, ((used + 1 : Nat) : ℕ∞) < ⊤ := fun _ => ENat.natCast_lt_top _
  have same : ∀ args : List TypeExpr,
      (args.map (TypeExpr.instantiate argument)).map (Scope.substitute ⟨[], scope.this⟩) =
        args.map scope.substitute := Scope.map_substitute_instantiate binds
  induction t using TypeExpr.induction generalizing used value with
  | string => cases h; exact .string
  | number => cases h; exact .number
  | integer => cases h with | integer h => exact .integer h
  | boolean => cases h; exact .boolean
  | any => exact .any
  | null => cases h; exact .null
  | never => cases h
  | literal choices => cases h with | literal mem admits => exact .literal mem admits
  | self =>
    cases h with
    | selfFree h => exact .selfFree h
    | @self _ _ this _ h lt inner => exact .self h lt (inner.rebind this.2 rfl)
  | var name =>
    rw [TypeExpr.instantiate] at h
    cases found : scope.bindings.find? name with
    | none => exact .varFree found
    | some bound =>
      rw [binds.of_some found, Option.getD_some] at h
      have inside : Conforms source ⊤ used scope bound.1 value := h.rebind bound.2 rfl
      exact .var found (lt used) inside.unlimited
  | named key args _ =>
    rw [TypeExpr.instantiate, TypeExpr.instantiateAll_eq_map] at h
    cases h with
    | undescribed h => exact .undescribed h
    | opaqueType h => exact .opaqueType h
    | aliased h lt inner =>
      rw [Scope.enter_congr (same args) rfl] at inner
      exact .aliased h lt inner
    | record h present missing further extra =>
      rw [Scope.enterRecord_congr (same args)] at present missing further extra
      exact .record h present missing further extra
  | list element ih =>
    cases element with
    | none => cases h; exact .listAny
    | some element =>
      cases h with
      | list items =>
        refine .list fun item hitem => ?_
        exact ih element rfl (plain.part (.list .refl)) (items item hitem)
  | variadic element ih =>
    cases h with
    | variadic items =>
      exact .variadic fun item hitem => ih (plain.part (.variadic .refl)) (items item hitem)
  | tuple elements ih =>
    rw [TypeExpr.instantiate, TypeExpr.instantiateAll_eq_map] at h
    cases h with
    | tuple length items =>
      refine .tuple (by rw [length, List.length_map]) fun p hp => ?_
      have mem := (List.of_mem_zip hp).1
      refine ih p.1 mem (plain.part (.tuple mem .refl)) (items (p.1.instantiate argument, p.2) ?_)
      rw [List.zip_map_left]
      exact List.mem_map_of_mem hp
  | union members ih =>
    rw [TypeExpr.instantiate, TypeExpr.instantiateAll_eq_map] at h
    cases h with
    | union mem lt inner =>
      obtain ⟨m, hm, rfl⟩ := List.mem_map.mp mem
      exact .union hm lt (ih m hm (plain.part (.union hm .refl)) inner)
  | required inner ih =>
    cases h with | required h => exact .required (ih (plain.part (.required .refl)) h)
  | notRequired inner ih =>
    cases h with | notRequired h => exact .notRequired (ih (plain.part (.notRequired .refl)) h)
  | documented doc inner ih =>
    cases h with | documented h => exact .documented (ih (plain.part (.documented .refl)) h)
  | map key element ihk ihe =>
    have direct : ∀ t, key = some t → ∀ name, t.unwrapped ≠ .var name := by
      rintro t rfl
      exact plain t _ .refl
    rw [TypeExpr.instantiate, TypeExpr.instantiateOption_eq_map,
      TypeExpr.instantiateOption_eq_map] at h
    cases h with
    | map kinds keys items =>
      refine .map ?_ ?_ ?_
      · intro name item hmem
        rw [← keyKindFindings_instantiate direct]
        exact kinds name item hmem
      · intro name item narrow hmem hkey
        have hkey' : keyType? (key.map (TypeExpr.instantiate argument)) =
            some (narrow.instantiate argument) := by
          rw [keyType?_instantiate direct, hkey, Option.map_some]
        have inner := keys name item _ hmem hkey'
        obtain ⟨t, rfl, rfl⟩ := unwrapped_of_keyType? hkey
        rw [← TypeExpr.unwrapped_instantiate t (direct t rfl), unwrapped_iff] at inner
        exact unwrapped_iff.mpr (ihk t rfl (plain.part (.key .refl)) inner)
      · intro name item t hmem helement
        subst helement
        exact ihe t rfl (plain.part (.value .refl)) (items name item _ hmem rfl)

end Conforms

end SchemaDialogue
