import SchemaDialogue.Proofs.Conformance

/-!
# A second name for a type

Given a reference `named key args` and a second key `copy`, two type expressions are alike when some
occurrences of the reference stand as `named copy []` in the other one (`Alike`). The relation is
kept by everything that the check does with types: substitution, entering definitions, inheriting.
-/

namespace SchemaDialogue

/-- `Alike key args copy t t'`: some occurrences of `named key args` in `t` are `named copy []` in
`t'`; the key `copy` does not occur otherwise. -/
inductive Alike (key : TypeKey) (args : List TypeExpr) (copy : TypeKey) : TypeExpr → TypeExpr → Prop
  | swap : Alike key args copy (.named key args) (.named copy [])
  | named {k as as'} : k ≠ copy → as.length = as'.length →
      (∀ p ∈ as.zip as', Alike key args copy p.1 p.2) →
      Alike key args copy (.named k as) (.named k as')
  | listAny : Alike key args copy (.list none) (.list none)
  | list {t t'} : Alike key args copy t t' → Alike key args copy (.list (some t)) (.list (some t'))
  | map {k k' v v'} : k.isSome = k'.isSome → v.isSome = v'.isSome →
      (∀ t t', k = some t → k' = some t' → Alike key args copy t t') →
      (∀ t t', v = some t → v' = some t' → Alike key args copy t t') →
      Alike key args copy (.map k v) (.map k' v')
  | tuple {ts ts'} : ts.length = ts'.length → (∀ p ∈ ts.zip ts', Alike key args copy p.1 p.2) →
      Alike key args copy (.tuple ts) (.tuple ts')
  | variadic {t t'} : Alike key args copy t t' → Alike key args copy (.variadic t) (.variadic t')
  | union {ts ts'} : ts.length = ts'.length → (∀ p ∈ ts.zip ts', Alike key args copy p.1 p.2) →
      Alike key args copy (.union ts) (.union ts')
  | required {t t'} : Alike key args copy t t' → Alike key args copy (.required t) (.required t')
  | notRequired {t t'} : Alike key args copy t t' →
      Alike key args copy (.notRequired t) (.notRequired t')
  | documented {doc t t'} : Alike key args copy t t' →
      Alike key args copy (.documented doc t) (.documented doc t')
  | string : Alike key args copy .string .string
  | number : Alike key args copy .number .number
  | integer : Alike key args copy .integer .integer
  | boolean : Alike key args copy .boolean .boolean
  | any : Alike key args copy .any .any
  | null : Alike key args copy .null .null
  | never : Alike key args copy .never .never
  | self : Alike key args copy .self .self
  | var {name} : Alike key args copy (.var name) (.var name)
  | literal {choices} : Alike key args copy (.literal choices) (.literal choices)

/-- The key does not occur in the type expression. -/
def TypeExpr.Avoids (t : TypeExpr) (key : TypeKey) : Prop :=
  ∀ args, ¬TypeExpr.Part (.named key args) t

theorem TypeExpr.Avoids.part {t u : TypeExpr} {key : TypeKey} (h : t.Avoids key)
    (part : TypeExpr.Part u t) : u.Avoids key :=
  fun args hpart => h args (hpart.trans part)

namespace Alike

variable {key copy : TypeKey} {args : List TypeExpr}

/-- What does not mention the second key is like itself. -/
theorem refl (t : TypeExpr) (h : t.Avoids copy) : Alike key args copy t t := by
  have each : ∀ ts : List TypeExpr, (∀ t ∈ ts, Alike key args copy t t) →
      ∀ p ∈ ts.zip ts, Alike key args copy p.1 p.2 := by
    intro ts hts p hp
    exact (List.forall₂_iff_zip.mp (List.forall₂_same.mpr hts)).2 hp
  induction t using TypeExpr.induction with
  | string => exact .string
  | number => exact .number
  | integer => exact .integer
  | boolean => exact .boolean
  | any => exact .any
  | null => exact .null
  | never => exact .never
  | self => exact .self
  | var name => exact .var
  | named k as ih =>
    refine .named (fun hk => h as (hk ▸ .refl)) rfl (each as fun a ha => ?_)
    exact ih a ha (h.part (.named ha .refl))
  | list element ih =>
    cases element with
    | none => exact .listAny
    | some t => exact .list (ih t rfl (h.part (.list .refl)))
  | map k v ihk ihv =>
    refine .map rfl rfl ?_ ?_
    · rintro t t' rfl ht
      cases ht
      exact ihk t rfl (h.part (.key .refl))
    · rintro t t' rfl ht
      cases ht
      exact ihv t rfl (h.part (.value .refl))
  | tuple ts ih => exact .tuple rfl (each ts fun t ht => ih t ht (h.part (.tuple ht .refl)))
  | variadic t ih => exact .variadic (ih (h.part (.variadic .refl)))
  | union ts ih => exact .union rfl (each ts fun t ht => ih t ht (h.part (.union ht .refl)))
  | literal choices => exact .literal
  | required t ih => exact .required (ih (h.part (.required .refl)))
  | notRequired t ih => exact .notRequired (ih (h.part (.notRequired .refl)))
  | documented doc t ih => exact .documented (ih (h.part (.documented .refl)))

/-- Wrappers are taken off alike. -/
theorem unwrapped {t t' : TypeExpr} (h : Alike key args copy t t') :
    Alike key args copy t.unwrapped t'.unwrapped := by
  induction h with
  | required _ ih => exact ih
  | notRequired _ ih => exact ih
  | documented _ ih => exact ih
  | swap => exact .swap
  | named ne length each => exact .named ne length each
  | listAny => exact .listAny
  | list h => exact .list h
  | map hk hv keys values => exact .map hk hv keys values
  | tuple length each => exact .tuple length each
  | variadic h => exact .variadic h
  | union length each => exact .union length each
  | string => exact .string
  | number => exact .number
  | integer => exact .integer
  | boolean => exact .boolean
  | any => exact .any
  | null => exact .null
  | never => exact .never
  | self => exact .self
  | var => exact .var
  | literal => exact .literal

/-- Alike key types judge the keys of a map alike. -/
theorem keyKindFindings_eq {k k' : Option TypeExpr} (some_iff : k.isSome = k'.isSome)
    (h : ∀ t t', k = some t → k' = some t' → Alike key args copy t t') (name : String) :
    keyKindFindings k name = keyKindFindings k' name := by
  cases k with
  | none =>
    cases k' with
    | none => rfl
    | some t' => cases some_iff
  | some t =>
    cases k' with
    | none => cases some_iff
    | some t' =>
      unfold keyKindFindings
      rw [Option.map_some, Option.map_some]
      have inner := (h t t' rfl rfl).unwrapped
      generalize t.unwrapped = u at inner
      generalize t'.unwrapped = u' at inner
      cases inner <;> rfl

/-- Alike key types are narrowed to types that are alike. -/
theorem keyType?_rel {k k' : Option TypeExpr} (some_iff : k.isSome = k'.isSome)
    (h : ∀ t t', k = some t → k' = some t' → Alike key args copy t t') :
    Option.Rel (Alike key args copy) (keyType? k) (keyType? k') := by
  cases k with
  | none =>
    cases k' with
    | none => exact .none
    | some t' => cases some_iff
  | some t =>
    cases k' with
    | none => cases some_iff
    | some t' =>
      unfold keyType?
      rw [Option.map_some, Option.map_some]
      have inner := (h t t' rfl rfl).unwrapped
      generalize t.unwrapped = u at inner
      generalize t'.unwrapped = u' at inner
      cases inner with
      | swap => exact .some .swap
      | named ne length each => exact .some (.named ne length each)
      | union length each => exact .some (.union length each)
      | literal => exact .some .literal
      | _ => exact .none

end Alike

/-! ## Scopes -/

/-- Scopes that bind the same parameters, to closed types that are alike, with a `self` that is
alike. -/
structure ScopeAlike (key : TypeKey) (args : List TypeExpr) (copy : TypeKey) (s s' : Scope) :
    Prop where
  bindings : ∀ name, Option.Rel (fun c c' => Alike key args copy c.1 c'.1)
    (s.bindings.find? name) (s'.bindings.find? name)
  this : Option.Rel (fun c c' => Alike key args copy c.1 c'.1) s.this s'.this

namespace ScopeAlike

variable {key copy : TypeKey} {args : List TypeExpr} {s s' : Scope}

theorem empty : ScopeAlike key args copy .empty .empty := ⟨fun _ => .none, .none⟩

/-- Types that are alike mean closed types that are alike, if `args` are closed. -/
theorem substitute (h : ScopeAlike key args copy s s') (closed : ∀ a ∈ args, a.isClosed = true)
    {t t' : TypeExpr} (alike : Alike key args copy t t') :
    Alike key args copy (s.substitute t) (s'.substitute t') := by
  have each : ∀ {ts ts' : List TypeExpr},
      (∀ p ∈ ts.zip ts', Alike key args copy (s.substitute p.1) (s'.substitute p.2)) →
      ∀ p ∈ (ts.map s.substitute).zip (ts'.map s'.substitute), Alike key args copy p.1 p.2 := by
    intro ts ts' hts p hp
    rw [List.zip_map] at hp
    obtain ⟨q, hq, rfl⟩ := List.mem_map.mp hp
    exact hts q hq
  induction alike with
  | swap =>
    have fixed : (TypeExpr.named key args).isClosed = true := TypeExpr.allClosed_iff.mpr closed
    rw [s.substitute_of_closed _ fixed]
    exact .swap
  | named ne length _ ih =>
    rw [Scope.substitute, Scope.substitute, Scope.substituteAll_eq_map, Scope.substituteAll_eq_map]
    exact .named ne (by rw [List.length_map, List.length_map, length]) (each ih)
  | listAny => exact .listAny
  | list _ ih => exact .list ih
  | map hk hv _ _ ihk ihv =>
    rw [Scope.substitute, Scope.substitute, Scope.substituteOption_eq_map,
      Scope.substituteOption_eq_map, Scope.substituteOption_eq_map, Scope.substituteOption_eq_map]
    refine .map (by rw [Option.isSome_map, Option.isSome_map, hk])
      (by rw [Option.isSome_map, Option.isSome_map, hv]) ?_ ?_
    · intro t t' ht ht'
      obtain ⟨u, hu, rfl⟩ := Option.map_eq_some_iff.mp ht
      obtain ⟨u', hu', rfl⟩ := Option.map_eq_some_iff.mp ht'
      exact ihk u u' hu hu'
    · intro t t' ht ht'
      obtain ⟨u, hu, rfl⟩ := Option.map_eq_some_iff.mp ht
      obtain ⟨u', hu', rfl⟩ := Option.map_eq_some_iff.mp ht'
      exact ihv u u' hu hu'
  | tuple length _ ih =>
    rw [Scope.substitute, Scope.substitute, Scope.substituteAll_eq_map, Scope.substituteAll_eq_map]
    exact .tuple (by rw [List.length_map, List.length_map, length]) (each ih)
  | variadic _ ih => exact .variadic ih
  | union length _ ih =>
    rw [Scope.substitute, Scope.substitute, Scope.substituteAll_eq_map, Scope.substituteAll_eq_map]
    exact .union (by rw [List.length_map, List.length_map, length]) (each ih)
  | required _ ih => exact .required ih
  | notRequired _ ih => exact .notRequired ih
  | documented _ ih => exact .documented ih
  | string => exact .string
  | number => exact .number
  | integer => exact .integer
  | boolean => exact .boolean
  | any => exact .any
  | null => exact .null
  | never => exact .never
  | self =>
    rw [Scope.substitute, Scope.substitute, Scope.selfMeaning, Scope.selfMeaning]
    have := h.this
    revert this
    cases s.this <;> cases s'.this <;> intro this <;> cases this
    · exact .any
    · assumption
  | @var name =>
    rw [Scope.substitute, Scope.substitute, Scope.meaning, Scope.meaning]
    have := h.bindings name
    revert this
    cases s.bindings.find? name <;> cases s'.bindings.find? name <;> intro this <;> cases this
    · exact .any
    · assumption
  | literal => exact .literal

/-- Arguments that are alike bind parameters alike. -/
theorem bind (h : ScopeAlike key args copy s s') (closed : ∀ a ∈ args, a.isClosed = true)
    {as as' : List TypeExpr} (alike : List.Forall₂ (Alike key args copy) as as')
    (params : List String) (name : String) :
    Option.Rel (fun c c' => Alike key args copy c.1 c'.1) ((s.bind params as).find? name)
      ((s'.bind params as').find? name) := by
  refine Entries.find?_ofList_rel (Entries.forall₂_zip ?_ params) name
  rw [List.forall₂_map_left_iff, List.forall₂_map_right_iff]
  exact alike.imp fun a a' ha => h.substitute closed ha

theorem enter (h : ScopeAlike key args copy s s') (closed : ∀ a ∈ args, a.isClosed = true)
    {as as' : List TypeExpr} (alike : List.Forall₂ (Alike key args copy) as as')
    (params : List String) :
    ScopeAlike key args copy (s.enter params as) (s'.enter params as') :=
  ⟨h.bind closed alike params, h.this⟩

theorem enterRecord (h : ScopeAlike key args copy s s') (closed : ∀ a ∈ args, a.isClosed = true)
    {k : TypeKey} (ne : k ≠ copy) {as as' : List TypeExpr}
    (alike : List.Forall₂ (Alike key args copy) as as') (params : List String) :
    ScopeAlike key args copy (s.enterRecord k params as) (s'.enterRecord k params as') := by
  obtain ⟨length, each⟩ := List.forall₂_iff_zip.mp alike
  refine ⟨h.bind closed alike params, .some ?_⟩
  exact h.substitute closed (.named ne length fun p hp => each hp)

end ScopeAlike

end SchemaDialogue
