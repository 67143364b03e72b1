import SchemaDialogue.Conform.Scope
import SchemaDialogue.Proofs.Entries

/-!
# Parts of type expressions

What occurs in a type expression at any depth (`TypeExpr.Part`), the induction over type
expressions, and what substitution does to closed ones. The functions on lists of type expressions
and on type expressions that may be missing are maps (`substituteAll_eq_map` and its siblings), so
that no proof about them repeats their recursion.
-/

namespace SchemaDialogue

namespace TypeExpr

/-- Induction over type expressions; in lists and options it holds of each that is there. -/
theorem induction {P : TypeExpr → Prop} (string : P .string) (number : P .number)
    (integer : P .integer) (boolean : P .boolean) (any : P .any) (null : P .null)
    (never : P .never) (self : P .self) (var : ∀ name, P (.var name))
    (named : ∀ key args, (∀ a ∈ args, P a) → P (.named key args))
    (list : ∀ element, (∀ t, element = some t → P t) → P (.list element))
    (map : ∀ key value, (∀ t, key = some t → P t) → (∀ t, value = some t → P t) →
      P (.map key value))
    (tuple : ∀ elements, (∀ t ∈ elements, P t) → P (.tuple elements))
    (variadic : ∀ element, P element → P (.variadic element))
    (union : ∀ members, (∀ t ∈ members, P t) → P (.union members))
    (literal : ∀ choices, P (.literal choices))
    (required : ∀ inner, P inner → P (.required inner))
    (notRequired : ∀ inner, P inner → P (.notRequired inner))
    (documented : ∀ doc inner, P inner → P (.documented doc inner)) (t : TypeExpr) : P t := by
  apply TypeExpr.rec (motive_1 := P) (motive_2 := fun ts => ∀ t ∈ ts, P t)
    (motive_3 := fun o => ∀ t, o = some t → P t) string number integer boolean any null never self
    var (fun _ _ ih => named _ _ ih) (fun _ ih => list _ ih) (fun _ _ ihk ihv => map _ _ ihk ihv)
    (fun _ ih => tuple _ ih) variadic (fun _ ih => union _ ih) literal required notRequired
    documented
  · exact fun t ht => by cases ht
  · intro head tail ihh iht t ht
    rcases List.mem_cons.mp ht with rfl | ht
    · exact ihh
    · exact iht t ht
  · exact fun t ht => by cases ht
  · intro head ih t ht
    cases ht
    exact ih

/-- `Part u t`: the type expression `u` occurs in `t`, at any depth. -/
inductive Part : TypeExpr → TypeExpr → Prop
  | refl {t} : Part t t
  | named {u a key args} : a ∈ args → Part u a → Part u (.named key args)
  | list {u element} : Part u element → Part u (.list (some element))
  | key {u key value} : Part u key → Part u (.map (some key) value)
  | value {u key value} : Part u value → Part u (.map key (some value))
  | tuple {u t elements} : t ∈ elements → Part u t → Part u (.tuple elements)
  | variadic {u element} : Part u element → Part u (.variadic element)
  | union {u m members} : m ∈ members → Part u m → Part u (.union members)
  | required {u inner} : Part u inner → Part u (.required inner)
  | notRequired {u inner} : Part u inner → Part u (.notRequired inner)
  | documented {u doc inner} : Part u inner → Part u (.documented doc inner)

/-- The type inside of the wrappers is a part. -/
theorem Part.unwrapped (t : TypeExpr) : Part t.unwrapped t := by
  induction t using TypeExpr.induction with
  | required inner ih => exact .required ih
  | notRequired inner ih => exact .notRequired ih
  | documented doc inner ih => exact .documented ih
  | _ => exact .refl

theorem Part.trans {t u w : TypeExpr} (h : Part t u) (h' : Part u w) : Part t w := by
  induction h' with
  | refl => exact h
  | named mem _ ih => exact .named mem ih
  | list _ ih => exact .list ih
  | key _ ih => exact .key ih
  | value _ ih => exact .value ih
  | tuple mem _ ih => exact .tuple mem ih
  | variadic _ ih => exact .variadic ih
  | union mem _ ih => exact .union mem ih
  | required _ ih => exact .required ih
  | notRequired _ ih => exact .notRequired ih
  | documented _ ih => exact .documented ih

/-! ## Closed type expressions -/

theorem allClosed_iff {ts : List TypeExpr} :
    allClosed ts = true ↔ ∀ t ∈ ts, t.isClosed = true := by
  induction ts with
  | nil => simp [allClosed]
  | cons t rest ih => simp [allClosed, ih]

theorem optionClosed_iff {o : Option TypeExpr} :
    optionClosed o = true ↔ ∀ t, o = some t → t.isClosed = true := by
  cases o <;> simp [optionClosed]

theorem isClosed_unwrapped (t : TypeExpr) : t.unwrapped.isClosed = t.isClosed := by
  induction t using TypeExpr.induction with
  | required inner ih => exact ih
  | notRequired inner ih => exact ih
  | documented doc inner ih => exact ih
  | _ => rfl

end TypeExpr

namespace Scope

theorem substituteAll_eq_map (s : Scope) (ts : List TypeExpr) :
    s.substituteAll ts = ts.map s.substitute := by
  induction ts with
  | nil => rfl
  | cons t rest ih => rw [substituteAll, ih, List.map_cons]

theorem substituteOption_eq_map (s : Scope) (o : Option TypeExpr) :
    s.substituteOption o = o.map s.substitute := by
  cases o <;> rfl

/-- Where a part of a type expression in which all is substituted comes from: it is what a part that
is no parameter and not `self` has become, or a part of what is bound, or `any` for what is not. -/
inductive Yields (s : Scope) (t p : TypeExpr) : Prop
  | kept {q} : TypeExpr.Part q t → q ≠ .self → (∀ name, q ≠ .var name) → s.substitute q = p →
      Yields s t p
  | bound {name bound} : s.bindings.find? name = some bound → TypeExpr.Part p bound.1 → Yields s t p
  | this {this} : s.this = some this → TypeExpr.Part p this.1 → Yields s t p
  | any : p = .any → Yields s t p

theorem Yields.of_part {s : Scope} {t u p : TypeExpr} (h : s.Yields u p)
    (part : TypeExpr.Part u t) : s.Yields t p := by
  cases h with
  | kept part' notSelf notVar same => exact .kept (part'.trans part) notSelf notVar same
  | bound found part => exact .bound found part
  | this some part => exact .this some part
  | any same => exact .any same

theorem yields_of_part_substitute {s : Scope} {p t : TypeExpr}
    (h : TypeExpr.Part p (s.substitute t)) : s.Yields t p := by
  have self (u : TypeExpr) (notSelf : u ≠ .self) (notVar : ∀ name, u ≠ .var name) :
      s.Yields u (s.substitute u) := .kept .refl notSelf notVar rfl
  induction t using TypeExpr.induction generalizing p with
  | self =>
    rw [substitute, selfMeaning] at h
    split at h
    · exact .this ‹_› h
    · cases h
      exact .any rfl
  | var name =>
    rw [substitute, meaning] at h
    split at h
    · exact .bound ‹_› h
    · cases h
      exact .any rfl
  | named key args ih =>
    have own := self (.named key args) nofun nofun
    rw [substitute, substituteAll_eq_map] at h own
    cases h with
    | refl => exact own
    | named mem part =>
      obtain ⟨a, ha, rfl⟩ := List.mem_map.mp mem
      exact (ih a ha part).of_part (.named ha .refl)
  | list element ih =>
    have own := self (.list element) nofun nofun
    rw [substitute, substituteOption_eq_map] at h own
    generalize becomes : element.map s.substitute = element' at h own
    cases h with
    | refl => exact own
    | list part =>
      obtain ⟨t, rfl, rfl⟩ := Option.map_eq_some_iff.mp becomes
      exact (ih t rfl part).of_part (.list .refl)
  | map key value ihk ihv =>
    have own := self (.map key value) nofun nofun
    rw [substitute, substituteOption_eq_map, substituteOption_eq_map] at h own
    generalize becomesKey : key.map s.substitute = key' at h own
    generalize becomesValue : value.map s.substitute = value' at h own
    cases h with
    | refl => exact own
    | key part =>
      obtain ⟨t, rfl, rfl⟩ := Option.map_eq_some_iff.mp becomesKey
      exact (ihk t rfl part).of_part (.key .refl)
    | value part =>
      obtain ⟨t, rfl, rfl⟩ := Option.map_eq_some_iff.mp becomesValue
      exact (ihv t rfl part).of_part (.value .refl)
  | tuple elements ih =>
    have own := self (.tuple elements) nofun nofun
    rw [substitute, substituteAll_eq_map] at h own
    cases h with
    | refl => exact own
    | tuple mem part =>
      obtain ⟨e, he, rfl⟩ := List.mem_map.mp mem
      exact (ih e he part).of_part (.tuple he .refl)
  | variadic element ih =>
    cases h with
    | refl => exact self _ nofun nofun
    | variadic part => exact (ih part).of_part (.variadic .refl)
  | union members ih =>
    have own := self (.union members) nofun nofun
    rw [substitute, substituteAll_eq_map] at h own
    cases h with
    | refl => exact own
    | union mem part =>
      obtain ⟨m, hm, rfl⟩ := List.mem_map.mp mem
      exact (ih m hm part).of_part (.union hm .refl)
  | required inner ih =>
    cases h with
    | refl => exact self _ nofun nofun
    | required part => exact (ih part).of_part (.required .refl)
  | notRequired inner ih =>
    cases h with
    | refl => exact self _ nofun nofun
    | notRequired part => exact (ih part).of_part (.notRequired .refl)
  | documented doc inner ih =>
    cases h with
    | refl => exact self _ nofun nofun
    | documented part => exact (ih part).of_part (.documented .refl)
  | _ =>
    cases h
    exact self _ nofun nofun

/-- A reference, after all is substituted, was written there, perhaps with other arguments, or is
part of what is bound. -/
theorem named_of_part_substitute {s : Scope} {key : TypeKey} {args : List TypeExpr} {t : TypeExpr}
    (h : TypeExpr.Part (.named key args) (s.substitute t)) :
    (∃ args', TypeExpr.Part (.named key args') t) ∨
      (∃ name bound, s.bindings.find? name = some bound ∧ TypeExpr.Part (.named key args) bound.1) ∨
        ∃ this, s.this = some this ∧ TypeExpr.Part (.named key args) this.1 := by
  cases yields_of_part_substitute h with
  | bound found part => exact .inr (.inl ⟨_, _, found, part⟩)
  | this some part => exact .inr (.inr ⟨_, some, part⟩)
  | any same => cases same
  | @kept q written notSelf notVar same =>
    cases q with
    | named key' args' =>
      cases same
      exact .inl ⟨args', written⟩
    | self => exact absurd rfl notSelf
    | var name => exact absurd rfl (notVar name)
    | _ => cases same

/-- Nothing is substituted in a closed type expression. -/
theorem substitute_of_closed (s : Scope) (t : TypeExpr) (closed : t.isClosed = true) :
    s.substitute t = t := by
  induction t using TypeExpr.induction with
  | self => cases closed
  | var name => cases closed
  | named key args ih =>
    rw [TypeExpr.isClosed, TypeExpr.allClosed_iff] at closed
    rw [substitute, substituteAll_eq_map, List.map_congr_left fun a ha => ih a ha (closed a ha),
      List.map_id']
  | list element ih =>
    rw [TypeExpr.isClosed, TypeExpr.optionClosed_iff] at closed
    cases element with
    | none => rfl
    | some t => rw [substitute, substituteOption, ih t rfl (closed t rfl)]
  | map key value ihk ihv =>
    rw [TypeExpr.isClosed, Bool.and_eq_true, TypeExpr.optionClosed_iff,
      TypeExpr.optionClosed_iff] at closed
    have hkey : s.substituteOption key = key := by
      cases key with
      | none => rfl
      | some t => rw [substituteOption, ihk t rfl (closed.1 t rfl)]
    have hvalue : s.substituteOption value = value := by
      cases value with
      | none => rfl
      | some t => rw [substituteOption, ihv t rfl (closed.2 t rfl)]
    rw [substitute, hkey, hvalue]
  | tuple elements ih =>
    rw [TypeExpr.isClosed, TypeExpr.allClosed_iff] at closed
    rw [substitute, substituteAll_eq_map, List.map_congr_left fun a ha => ih a ha (closed a ha),
      List.map_id']
  | union members ih =>
    rw [TypeExpr.isClosed, TypeExpr.allClosed_iff] at closed
    rw [substitute, substituteAll_eq_map, List.map_congr_left fun a ha => ih a ha (closed a ha),
      List.map_id']
  | variadic element ih => rw [substitute, ih closed]
  | required inner ih => rw [substitute, ih closed]
  | notRequired inner ih => rw [substitute, ih closed]
  | documented doc inner ih => rw [substitute, ih closed]
  | _ => rfl

/-- What is wrapped means the same where the whole does. -/
theorem substitute_unwrapped_congr {s s' : Scope} {t : TypeExpr}
    (h : s.substitute t = s'.substitute t) :
    s.substitute t.unwrapped = s'.substitute t.unwrapped := by
  induction t using TypeExpr.induction with
  | required inner ih => exact ih (by rw [substitute, substitute] at h; injection h)
  | notRequired inner ih => exact ih (by rw [substitute, substitute] at h; injection h)
  | documented doc inner ih => exact ih (by rw [substitute, substitute] at h; injection h)
  | _ => exact h

/-- Arguments that mean the same bind parameters to the same. -/
theorem bind_congr {s s' : Scope} {args args' : List TypeExpr}
    (h : args.map s.substitute = args'.map s'.substitute) (params : List String) :
    s.bind params args = s'.bind params args' := by
  have same : args.map s.close = args'.map s'.close := by
    apply List.map_injective_iff.mpr Subtype.val_injective
    rw [List.map_map, List.map_map]
    exact h
  rw [bind, bind, same]

theorem enter_congr {s s' : Scope} {args args' : List TypeExpr}
    (h : args.map s.substitute = args'.map s'.substitute) (this : s.this = s'.this)
    (params : List String) :
    s.enter params args = s'.enter params args' := by
  rw [enter, enter, bind_congr h, this]

theorem enterRecord_congr {s s' : Scope} {args args' : List TypeExpr}
    (h : args.map s.substitute = args'.map s'.substitute) (key : TypeKey) (params : List String) :
    s.enterRecord key params args = s'.enterRecord key params args' := by
  have same : s.close (.named key args) = s'.close (.named key args') := by
    apply Subtype.ext
    show s.substitute (.named key args) = s'.substitute (.named key args')
    rw [substitute, substitute, substituteAll_eq_map, substituteAll_eq_map, h]
  rw [enterRecord, enterRecord, bind_congr h, same]

end Scope

namespace TypeDef

/-- The type expressions of a definition. -/
def types : TypeDef → List TypeExpr
  | record r => r.bases ++ r.fields.map (·.type) ++ r.extra.toList
  | aliased a => [a.target]
  | opaqueType _ => []

theorem base_mem_types {r : RecordDef} {base : TypeExpr} (h : base ∈ r.bases) :
    base ∈ (record r).types :=
  List.mem_append_left _ (List.mem_append_left _ h)

theorem field_mem_types {r : RecordDef} {f : FieldDef} (h : f ∈ r.fields) :
    f.type ∈ (record r).types :=
  List.mem_append_left _ (List.mem_append_right _ (List.mem_map_of_mem h))

theorem extra_mem_types {r : RecordDef} {t : TypeExpr} (h : r.extra = some t) :
    t ∈ (record r).types :=
  List.mem_append_right _ (by rw [h]; exact .head _)

end TypeDef

end SchemaDialogue
