import SchemaDialogue.Proofs.Blame
import SchemaDialogue.Proofs.Expansion
import SchemaDialogue.Proofs.IntegerNames

/-!
# Numbers in the place of integers

`number` in the place of every `integer`, at any depth of a type and of all definitions, lets more
values pass:

* **widening**: `widen` on types, scopes and definitions. All that the check looks up is widened
  with them: what a parameter means, the fields of a record, the type of further members;
* **monotony**: what passes a type passes the wider one (`check_widen`), along the induction that
  the check follows. The names of keys are the exception, since a name that is an integer need not
  be a number; they are asked to be plain at the places that the check comes to (`PlainKeys`).
-/

namespace SchemaDialogue

/-! ## Widening types -/

namespace TypeExpr

mutual

/-- `number` in the place of every `integer`. -/
def widen : TypeExpr → TypeExpr
  | integer => number
  | named key args => named key (widenAll args)
  | list element => list (widenOption element)
  | map key value => map (widenOption key) (widenOption value)
  | tuple elements => tuple (widenAll elements)
  | variadic element => variadic element.widen
  | union members => union (widenAll members)
  | required inner => required inner.widen
  | notRequired inner => notRequired inner.widen
  | documented doc inner => documented doc inner.widen
  | string => string
  | number => number
  | boolean => boolean
  | any => any
  | null => null
  | never => never
  | self => self
  | var name => var name
  | literal choices => literal choices

/-- Widen every type expression. -/
def widenAll : List TypeExpr → List TypeExpr
  | [] => []
  | t :: rest => t.widen :: widenAll rest

/-- Widen a type expression that may be missing. -/
def widenOption : Option TypeExpr → Option TypeExpr
  | none => none
  | some t => some t.widen

end

attribute [local simp] widen

@[simp] theorem widenAll_eq_map (ts : List TypeExpr) : widenAll ts = ts.map widen := by
  induction ts with
  | nil => rfl
  | cons t rest ih => rw [widenAll, ih, List.map_cons]

@[simp] theorem widenOption_eq_map (o : Option TypeExpr) : widenOption o = o.map widen := by
  cases o <;> rfl

theorem allClosed_map_widen {ts : List TypeExpr} (ih : ∀ t ∈ ts, t.widen.isClosed = t.isClosed) :
    allClosed (ts.map widen) = allClosed ts := by
  rw [Bool.eq_iff_iff, allClosed_iff, allClosed_iff, List.forall_mem_map]
  exact forall₂_congr fun t mem => by rw [ih t mem]

theorem optionClosed_map_widen {o : Option TypeExpr}
    (ih : ∀ t, o = some t → t.widen.isClosed = t.isClosed) :
    optionClosed (o.map widen) = optionClosed o := by
  cases o with
  | none => rfl
  | some t => exact ih t rfl

@[simp] theorem isClosed_widen (t : TypeExpr) : t.widen.isClosed = t.isClosed := by
  induction t using TypeExpr.induction with
  | named key args ih => simp [isClosed, allClosed_map_widen ih]
  | list element ih => simp [isClosed, optionClosed_map_widen ih]
  | map key value ihk ihv =>
    simp [isClosed, optionClosed_map_widen ihk, optionClosed_map_widen ihv]
  | tuple elements ih => simp [isClosed, allClosed_map_widen ih]
  | union members ih => simp [isClosed, allClosed_map_widen ih]
  | variadic element ih => exact ih
  | required inner ih => exact ih
  | notRequired inner ih => exact ih
  | documented doc inner ih => exact ih
  | _ => rfl

/-- Wrappers stay around what they wrap. -/
theorem unwrapped_widen (t : TypeExpr) : t.widen.unwrapped = t.unwrapped.widen := by
  induction t using TypeExpr.induction with
  | required inner ih => exact ih
  | notRequired inner ih => exact ih
  | documented doc inner ih => exact ih
  | _ => simp [unwrapped]

end TypeExpr

/-- A closed type, widened. -/
def ClosedType.widen (t : ClosedType) : ClosedType :=
  ⟨t.1.widen, by rw [TypeExpr.isClosed_widen, t.2]⟩

/-! ## Widening scopes -/

namespace Scope

/-- The scope with everything that is bound widened. -/
def widen (s : Scope) : Scope where
  bindings := s.bindings.mapValues ClosedType.widen
  this := s.this.map ClosedType.widen

variable {s : Scope}

theorem find?_widen (s : Scope) (name : String) :
    s.widen.bindings.find? name = (s.bindings.find? name).map ClosedType.widen :=
  Entries.find?_mapValues _ _ _

theorem meaning_widen (s : Scope) (name : String) :
    s.widen.meaning name = (s.meaning name).widen := by
  rw [meaning, meaning, find?_widen]
  cases s.bindings.find? name <;> rfl

theorem selfMeaning_widen (s : Scope) : s.widen.selfMeaning = s.selfMeaning.widen := by
  rw [selfMeaning, selfMeaning, widen]
  cases s.this <;> rfl

theorem map_substitute_widen {ts : List TypeExpr}
    (ih : ∀ t ∈ ts, s.widen.substitute t.widen = (s.substitute t).widen) :
    (ts.map TypeExpr.widen).map s.widen.substitute = (ts.map s.substitute).map TypeExpr.widen := by
  rw [List.map_map, List.map_map]
  exact List.map_congr_left ih

theorem option_substitute_widen {o : Option TypeExpr}
    (ih : ∀ t, o = some t → s.widen.substitute t.widen = (s.substitute t).widen) :
    (o.map TypeExpr.widen).map s.widen.substitute = (o.map s.substitute).map TypeExpr.widen := by
  cases o with
  | none => rfl
  | some t => exact congrArg some (ih t rfl)

/-- What a widened type means is what the type means, widened. -/
theorem substitute_widen (s : Scope) (t : TypeExpr) :
    s.widen.substitute t.widen = (s.substitute t).widen := by
  induction t using TypeExpr.induction with
  | var name => exact s.meaning_widen name
  | self => exact s.selfMeaning_widen
  | named key args ih =>
    simp only [TypeExpr.widen, TypeExpr.widenAll_eq_map, substitute, substituteAll_eq_map,
      map_substitute_widen ih]
  | list element ih =>
    simp only [TypeExpr.widen, TypeExpr.widenOption_eq_map, substitute, substituteOption_eq_map,
      option_substitute_widen ih]
  | map key value ihk ihv =>
    simp only [TypeExpr.widen, TypeExpr.widenOption_eq_map, substitute, substituteOption_eq_map,
      option_substitute_widen ihk, option_substitute_widen ihv]
  | tuple elements ih =>
    simp only [TypeExpr.widen, TypeExpr.widenAll_eq_map, substitute, substituteAll_eq_map,
      map_substitute_widen ih]
  | union members ih =>
    simp only [TypeExpr.widen, TypeExpr.widenAll_eq_map, substitute, substituteAll_eq_map,
      map_substitute_widen ih]
  | variadic element ih => simp only [TypeExpr.widen, substitute, ih]
  | required inner ih => simp only [TypeExpr.widen, substitute, ih]
  | notRequired inner ih => simp only [TypeExpr.widen, substitute, ih]
  | documented doc inner ih => simp only [TypeExpr.widen, substitute, ih]
  | _ => rfl

theorem close_widen (s : Scope) (t : TypeExpr) : s.widen.close t.widen = (s.close t).widen :=
  Subtype.ext (s.substitute_widen t)

theorem bind_widen (s : Scope) (params : List String) (args : List TypeExpr) :
    s.widen.bind params (args.map TypeExpr.widen) =
      (s.bind params args).mapValues ClosedType.widen := by
  have closed : (args.map TypeExpr.widen).map s.widen.close =
      (args.map s.close).map ClosedType.widen := by
    rw [List.map_map, List.map_map]
    exact List.map_congr_left fun t _ => s.close_widen t
  rw [bind, bind, closed, List.zip_map_right, ← Entries.ofList_mapValues]
  rfl

theorem enter_widen (s : Scope) (params : List String) (args : List TypeExpr) :
    s.widen.enter params (args.map TypeExpr.widen) = (s.enter params args).widen := by
  rw [enter, bind_widen]
  rfl

theorem enterRecord_widen (s : Scope) (key : TypeKey) (params : List String)
    (args : List TypeExpr) :
    s.widen.enterRecord key params (args.map TypeExpr.widen) =
      (s.enterRecord key params args).widen := by
  have this := s.close_widen (.named key args)
  rw [TypeExpr.widen, TypeExpr.widenAll_eq_map] at this
  rw [enterRecord, bind_widen, this]
  rfl

end Scope

/-! ## Widening definitions -/

/-- A field of the wider type. -/
def FieldDef.widen (f : FieldDef) : FieldDef := { f with type := f.type.widen }

/-- A record with everything in it widened. -/
def RecordDef.widen (r : RecordDef) : RecordDef :=
  { r with
    bases := r.bases.map TypeExpr.widen
    fields := r.fields.map FieldDef.widen
    extra := r.extra.map TypeExpr.widen }

/-- An alias for the wider type. -/
def AliasDef.widen (a : AliasDef) : AliasDef := { a with target := a.target.widen }

/-- A definition with everything in it widened. -/
def TypeDef.widen : TypeDef → TypeDef
  | record r => record r.widen
  | aliased a => aliased a.widen
  | opaqueType name => opaqueType name

/-- `number` in the place of every `integer` of all definitions. -/
def Registry.widen (source : Registry) : Registry :=
  ⟨source.types.mapValues TypeDef.widen, source.reserved⟩

theorem FieldDef.isOptional_widen (f : FieldDef) : f.widen.isOptional = f.isOptional := by
  have same : ∀ t : TypeExpr, optionality f.optional t.widen = optionality f.optional t := by
    intro t
    induction t using TypeExpr.induction with
    | documented doc inner ih => exact ih
    | _ => simp only [TypeExpr.widen, optionality]
  exact same f.type

namespace Registry

variable {source : Registry} {key : TypeKey} {trail : List TypeKey} {scope : Scope}
  {args : List TypeExpr} {base : TypeExpr} {r : RecordDef}

theorem lookup_widen (source : Registry) (key : TypeKey) :
    source.widen.lookup key = (source.lookup key).map TypeDef.widen :=
  Entries.find?_mapValues _ _ _

theorem Leads.widen (h : source.Leads trail base key args r) :
    source.widen.Leads trail base.widen key (args.map TypeExpr.widen) r.widen where
  named := by rw [TypeExpr.unwrapped_widen, h.named, TypeExpr.widen, TypeExpr.widenAll_eq_map]
  fresh := h.fresh
  lookup := by rw [lookup_widen, h.lookup]; rfl

/-- A widened base leads where the base does. -/
theorem Leads.of_widen {args' : List TypeExpr} {r' : RecordDef}
    (h : source.widen.Leads trail base.widen key args' r') :
    ∃ args r, source.Leads trail base key args r := by
  obtain ⟨args, named⟩ : ∃ args, base.unwrapped = .named key args := by
    have named := h.named
    rw [TypeExpr.unwrapped_widen] at named
    cases same : base.unwrapped <;> rw [same, TypeExpr.widen] at named <;> cases named
    exact ⟨_, rfl⟩
  obtain ⟨definition, lookup, same⟩ := Option.map_eq_some_iff.mp
    ((source.lookup_widen key).symm.trans h.lookup)
  cases definition with
  | record r => exact ⟨args, r, named, h.fresh, lookup⟩
  | _ => cases same

/-- A record and its scope, widened. -/
def widenPair (p : RecordDef × Scope) : RecordDef × Scope := (p.1.widen, p.2.widen)

theorem inheritScope_widen (heir : Scope) (r : RecordDef) (args : List TypeExpr) :
    inheritScope heir.widen r.widen (args.map TypeExpr.widen) =
      (inheritScope heir r args).widen :=
  heir.enter_widen _ _

/-- A widened base brings what the base brings, widened. -/
theorem branch_widen (source : Registry) (trail : List TypeKey) (scope : Scope) (base : TypeExpr) :
    source.widen.branch trail scope.widen base.widen =
      (source.branch trail scope base).map widenPair := by
  rcases source.leads_cases trail base with ⟨key, args, r, leads⟩ | idle
  · rw [branch_of_leads leads, branch_of_leads leads.widen, inheritScope_widen, List.map_cons,
      List.map_flatMap, RecordDef.widen, List.flatMap_map]
    exact congrArg _ (List.flatMap_congr fun base' _ => branch_widen source _ _ base')
  · -- what leads nowhere does not lead anywhere once it is widened either
    rw [branch_of_idle idle, branch_of_idle, List.map_nil]
    intro key args r leads
    obtain ⟨args, r, leads⟩ := leads.of_widen
    exact idle key args r leads
termination_by source.unvisited trail
decreasing_by exact leads.unvisited_lt

theorem heritage_widen (source : Registry) (scope : Scope) (r : RecordDef) :
    source.widen.heritage scope.widen r.widen = (source.heritage scope r).map widenPair := by
  rw [heritage, heritage, RecordDef.widen, List.flatMap_map, List.map_cons, List.map_flatMap]
  exact congrArg _ (List.flatMap_congr fun base _ => source.branch_widen [] scope base)

/-- A field and its scope, widened. -/
theorem fieldOf_widen (source : Registry) (scope : Scope) (r : RecordDef) (name : String) :
    source.widen.fieldOf scope.widen r.widen name =
      (source.fieldOf scope r name).map fun p => (p.1.widen, p.2.widen) := by
  have own : ∀ p : RecordDef × Scope,
      ownField name (widenPair p) = (ownField name p).map fun p => (p.1.widen, p.2.widen) := by
    intro p
    rw [ownField, ownField, widenPair, RecordDef.widen, List.find?_map, Option.map_map,
      Option.map_map]
    rfl
  rw [fieldOf_eq_findSome?, fieldOf_eq_findSome?, heritage_widen, List.findSome?_map,
    List.map_findSome?]
  exact congrArg (fun pick => List.findSome? pick _) (funext own)

theorem extraOf_widen (source : Registry) (scope : Scope) (r : RecordDef) :
    source.widen.extraOf scope.widen r.widen =
      (source.extraOf scope r).map fun p => (p.1.widen, p.2.widen) := by
  rw [extraOf, extraOf, heritage_widen, List.findSome?_map, List.map_findSome?]
  refine congrArg (fun pick => List.findSome? pick _) (funext fun p => ?_)
  rw [Function.comp_apply, Function.comp_apply, widenPair, RecordDef.widen, Option.map_map,
    Option.map_map]
  rfl

end Registry

/-! ## Widening keys -/

theorem keyType?_widen (key : Option TypeExpr) :
    keyType? (key.map TypeExpr.widen) = (keyType? key).map TypeExpr.widen := by
  cases key with
  | none => rfl
  | some t =>
    unfold keyType?
    simp only [Option.map_some, TypeExpr.unwrapped_widen]
    cases t.unwrapped <;> simp only [TypeExpr.widen, Option.map_none, Option.map_some]

/-- A key that passes goes on to pass, if it is plain where it is an integer. -/
theorem keyKindFindings_widen {key : Option TypeExpr} {name : String}
    (plain : key.map TypeExpr.unwrapped = some .integer → isIntegerKey name = true →
      isPlainName name = true) (h : keyKindFindings key name = []) :
    keyKindFindings (key.map TypeExpr.widen) name = [] := by
  cases key with
  | none => rfl
  | some t =>
    unfold keyKindFindings at h ⊢
    simp only [Option.map_some, TypeExpr.unwrapped_widen, Option.some.injEq] at h plain ⊢
    cases kind : t.unwrapped with
    | integer =>
      rw [kind] at h
      by_cases integer : isIntegerKey name = true
      · have number := (isSome_ofText?_iff integer).mpr (plain kind integer)
        exact if_pos number
      · rw [if_neg integer] at h
        cases h
    | number =>
      rw [kind] at h
      exact h
    | _ => rfl

/-! ## Monotony -/

/-- An integer is a number. -/
theorem Kind.number_of_integer {value : Json} (h : Kind.integer.admits value = true) :
    Kind.number.admits value = true := by
  cases value with
  | number n => rfl
  | _ => cases h

/-- Wherever the check of the value comes to a map with integers as keys, the names that are
integers are plain. -/
def PlainKeys (source : Registry) (scope : Scope) (t : TypeExpr) (value : Json) : Prop :=
  ∀ scope' key element members,
    Visits source scope t value scope' (.map key element) (.object members) →
      key.map TypeExpr.unwrapped = some .integer →
        ∀ name item, (name, item) ∈ members → isIntegerKey name = true → isPlainName name = true

section

variable {source : Registry} {scope scope' : Scope} {t t' : TypeExpr} {value value' : Json}

theorem PlainKeys.expand {n : Nat} (plain : PlainKeys source scope t value)
    (h : Expands source n scope t scope' t') : PlainKeys source scope' t' value :=
  fun _ _ _ _ visits => plain _ _ _ _ (.expand h visits)

theorem PlainKeys.descend (plain : PlainKeys source scope t value)
    (h : Descends source scope t value scope' t' value') : PlainKeys source scope' t' value' :=
  fun _ _ _ _ visits => plain _ _ _ _ (.descend h visits)

namespace Registry

/-! What passes a compound form goes on to pass, if this holds of smaller values. -/

section

variable (smaller : ∀ scope left t v, v.size < value.size → PlainKeys source scope t v →
  source.check scope left t v = [] → source.widen.check scope.widen left t.widen v = [])
include smaller

theorem check_list_widen {left : Nat} {element : TypeExpr}
    (plain : PlainKeys source scope (.list (some element)) value)
    (h : source.check scope left (.list (some element)) value = []) :
    source.widen.check scope.widen left (TypeExpr.list (some element)).widen value = [] := by
  obtain ⟨items, rfl, each⟩ := check_list_eq_nil.mp h
  refine check_list_eq_nil.mpr ⟨items, rfl, fun item there => ?_⟩
  exact smaller _ _ _ _ (Json.size_lt_of_mem_array there) (plain.descend (.list there))
    (each item there)

theorem check_variadic_widen {left : Nat} {element : TypeExpr}
    (plain : PlainKeys source scope (.variadic element) value)
    (h : source.check scope left (.variadic element) value = []) :
    source.widen.check scope.widen left (TypeExpr.variadic element).widen value = [] := by
  obtain ⟨items, rfl, each⟩ := check_variadic_eq_nil.mp h
  refine check_variadic_eq_nil.mpr ⟨items, rfl, fun item there => ?_⟩
  exact smaller _ _ _ _ (Json.size_lt_of_mem_array there) (plain.descend (.variadic there))
    (each item there)

theorem check_tuple_widen {left : Nat} {elements : List TypeExpr}
    (plain : PlainKeys source scope (.tuple elements) value)
    (h : source.check scope left (.tuple elements) value = []) :
    source.widen.check scope.widen left (TypeExpr.tuple elements).widen value = [] := by
  obtain ⟨items, rfl, length, each⟩ := check_tuple_eq_nil.mp h
  rw [TypeExpr.widen, TypeExpr.widenAll_eq_map]
  refine check_tuple_eq_nil.mpr ⟨items, rfl, by rw [length, List.length_map], fun p there => ?_⟩
  rw [List.zip_map_left] at there
  obtain ⟨q, pair, rfl⟩ := List.mem_map.mp there
  exact smaller _ _ _ _ (Json.size_lt_of_mem_array (List.of_mem_zip pair).2)
    (plain.descend (.tuple pair)) (each q pair)

theorem check_map_widen {left : Nat} {key element : Option TypeExpr}
    (plain : PlainKeys source scope (.map key element) value)
    (h : source.check scope left (.map key element) value = []) :
    source.widen.check scope.widen left (TypeExpr.map key element).widen value = [] := by
  obtain ⟨members, rfl, each⟩ := check_map_eq_nil.mp h
  rw [TypeExpr.widen, TypeExpr.widenOption_eq_map, TypeExpr.widenOption_eq_map]
  refine check_map_eq_nil.mpr ⟨members, rfl, fun name item there => ?_⟩
  obtain ⟨kind, ofKey, ofItem⟩ := each name item there
  refine ⟨?kinds, ?keys, ?items⟩
  case kinds =>
    exact keyKindFindings_widen (fun kind => plain _ _ _ _ .refl kind name item there) kind
  case keys =>
    -- a key that narrows the names down is held against each name as a text
    intro narrow' narrowed
    rw [keyType?_widen, Option.map_eq_some_iff] at narrowed
    obtain ⟨narrow, narrowed, rfl⟩ := narrowed
    exact smaller _ _ _ _ (Json.key_size_lt_of_mem_object there)
      (plain.descend (.key there narrowed)) (ofKey narrow narrowed)
  case items =>
    intro t' same
    obtain ⟨t, rfl, rfl⟩ := Option.map_eq_some_iff.mp same
    exact smaller _ _ _ _ (Json.size_lt_of_mem_object there) (plain.descend (.value there))
      (ofItem t rfl)

theorem check_record_widen {left : Nat} {key : TypeKey} {args : List TypeExpr} {r : RecordDef}
    (lookup : source.lookup key = some (.record r))
    (plain : PlainKeys source scope (.named key args) value)
    (h : source.check scope (left + 1) (.named key args) value = []) :
    source.widen.check scope.widen (left + 1) (TypeExpr.named key args).widen value = [] := by
  have lookup' : source.widen.lookup key = some (.record r.widen) := by
    rw [lookup_widen, lookup]
    rfl
  obtain ⟨members, rfl, present, missing, further⟩ := (check_record_eq_nil lookup).mp h
  rw [TypeExpr.widen, TypeExpr.widenAll_eq_map, check_record_eq_nil lookup']
  dsimp only at present missing further ⊢
  rw [show r.widen.typeParams = r.typeParams from rfl, Scope.enterRecord_widen]
  refine ⟨members, rfl, ?present, ?missing, ?further⟩
  case present =>
    intro name f' inner' item field found
    rw [fieldOf_widen, Option.map_eq_some_iff] at field
    obtain ⟨⟨f, inner⟩, field, same⟩ := field
    cases same
    exact smaller _ _ _ _ (Json.size_lt_of_find? found)
      (plain.descend (.field lookup field found)) (present name f inner item field found)
  case missing =>
    intro name f' inner' field absent
    rw [fieldOf_widen, Option.map_eq_some_iff] at field
    obtain ⟨⟨f, inner⟩, field, same⟩ := field
    cases same
    exact f.isOptional_widen.trans (missing name f inner field absent)
  case further =>
    intro name item there field
    rw [fieldOf_widen, Option.map_eq_none_iff] at field
    obtain ⟨⟨extra, inner⟩, open_, passes⟩ := further name item there field
    refine ⟨(extra.widen, inner.widen), by rw [extraOf_widen, open_]; rfl, ?_⟩
    exact smaller _ _ _ _ (Json.size_lt_of_mem_object there)
      (plain.descend (.extra lookup there field open_)) passes

/-- What passes a reference goes on to pass, if this holds with fewer expansions left, too. -/
theorem check_named_widen {left : Nat} {key : TypeKey} {args : List TypeExpr}
    (fewer : ∀ scope left' t, left' < left → PlainKeys source scope t value →
      source.check scope left' t value = [] →
      source.widen.check scope.widen left' t.widen value = [])
    (plain : PlainKeys source scope (.named key args) value)
    (h : source.check scope left (.named key args) value = []) :
    source.widen.check scope.widen left (TypeExpr.named key args).widen value = [] := by
  cases left with
  | zero => exact absurd h check_named_zero
  | succ left =>
    have lookup' := source.lookup_widen key
    cases lookup : source.lookup key with
    | none =>
      rw [lookup] at lookup'
      exact check_undescribed lookup'
    | some definition =>
      rw [lookup] at lookup'
      cases definition with
      | opaqueType name =>
        exact (check_opaque_eq_nil lookup').mpr ((check_opaque_eq_nil lookup).mp h)
      | aliased a =>
        rw [check_aliased lookup] at h
        rw [TypeExpr.widen, TypeExpr.widenAll_eq_map, check_aliased lookup']
        show source.widen.check (scope.widen.enter a.typeParams _) left a.target.widen value = []
        rw [Scope.enter_widen]
        exact fewer _ _ _ (Nat.lt_succ_self left) (plain.expand (.aliased lookup .refl)) h
      | record r => exact check_record_widen smaller lookup plain h

end

/-- What passes a type passes the wider type among the wider definitions. -/
theorem check_widen (scope : Scope) (left : Nat) (t : TypeExpr) (value : Json) :
    PlainKeys source scope t value → source.check scope left t value = [] →
      source.widen.check scope.widen left t.widen value = [] := by
  induction scope, left, t, value using check_induction with
  | step scope left t value smaller fewer closed parts =>
  intro plain h
  cases t with
  | string => exact check_string_eq_nil.mpr (check_string_eq_nil.mp h)
  | number => exact check_number_eq_nil.mpr (check_number_eq_nil.mp h)
  -- the one form that is replaced
  | integer => exact check_number_eq_nil.mpr (Kind.number_of_integer (check_integer_eq_nil.mp h))
  | boolean => exact check_boolean_eq_nil.mpr (check_boolean_eq_nil.mp h)
  | any => exact check_any
  | null => exact check_null_eq_nil.mpr (check_null_eq_nil.mp h)
  | never => exact absurd h check_never_ne_nil
  | literal choices => exact check_literal_eq_nil.mpr (check_literal_eq_nil.mp h)
  | self =>
    rw [TypeExpr.widen]
    cases bound : scope.this with
    | none => exact check_self_of_none (by rw [Scope.widen, bound]; rfl)
    | some this =>
      have bound' : scope.widen.this = some this.widen := by rw [Scope.widen, bound]; rfl
      rw [check_self_of_some bound] at h
      rw [check_self_of_some bound']
      exact closed _ this (Nat.sub_le _ _) rfl (plain.expand (.self bound .refl)) h
  | var name =>
    rw [TypeExpr.widen]
    have found' := scope.find?_widen name
    cases found : scope.bindings.find? name with
    | none =>
      rw [found] at found'
      exact check_var_of_none found'
    | some bound =>
      rw [found] at found'
      rw [check_var_of_some found] at h
      rw [check_var_of_some found']
      exact closed _ bound (Nat.sub_le _ _) rfl (plain.expand (.var found .refl)) h
  | named key args => exact check_named_widen smaller fewer plain h
  | list element =>
    cases element with
    | none => exact check_listAny_eq_nil.mpr (check_listAny_eq_nil.mp h)
    | some element => exact check_list_widen smaller plain h
  | map key element => exact check_map_widen smaller plain h
  | tuple elements => exact check_tuple_widen smaller plain h
  | variadic element => exact check_variadic_widen smaller plain h
  | union members =>
    obtain ⟨m, member, passes⟩ := check_union_eq_nil.mp h
    rw [TypeExpr.widen, TypeExpr.widenAll_eq_map]
    refine check_union_eq_nil.mpr ⟨m.widen, List.mem_map_of_mem member, ?_⟩
    exact parts _ m (Nat.sub_le _ _) (.union member) (plain.expand (.union member .refl)) passes
  | required inner =>
    rw [check_required] at h
    rw [TypeExpr.widen, check_required]
    exact parts left inner le_rfl .required (plain.expand (.required .refl)) h
  | notRequired inner =>
    rw [check_notRequired] at h
    rw [TypeExpr.widen, check_notRequired]
    exact parts left inner le_rfl .notRequired (plain.expand (.notRequired .refl)) h
  | documented doc inner =>
    rw [check_documented] at h
    rw [TypeExpr.widen, check_documented]
    exact parts left inner le_rfl .documented (plain.expand (.documented .refl)) h

end Registry

/-- The objects that the check comes to are in the value. -/
theorem Visits.exists_reaches {members : List (String × Json)}
    (h : Visits source scope t value scope' t' (.object members)) :
    ∃ segments, value.Reaches segments (.object members) := by
  generalize same : Json.object members = place at h
  induction h with
  | refl => exact ⟨[], same ▸ .here⟩
  | expand _ _ ih => exact ih same
  | descend step _ ih =>
    obtain ⟨segments, reaches⟩ := ih same
    cases step with
    | field _ _ found => exact ⟨_, .member (Entries.mem_of_find? found) reaches⟩
    | extra _ there _ _ => exact ⟨_, .member there reaches⟩
    | list there =>
      obtain ⟨index, position⟩ := List.mem_iff_getElem?.mp there
      exact ⟨_, .item position reaches⟩
    | variadic there =>
      obtain ⟨index, position⟩ := List.mem_iff_getElem?.mp there
      exact ⟨_, .item position reaches⟩
    | tuple pair =>
      obtain ⟨index, position⟩ := List.mem_iff_getElem?.mp (List.of_mem_zip pair).2
      exact ⟨_, .item position reaches⟩
    | key _ _ =>
      -- a name is checked as a text, in which there is no object
      cases reaches
      cases same
    | value there => exact ⟨_, .member there reaches⟩

/-- The keys are plain where all names in the value are that are integers. -/
theorem PlainKeys.of_names
    (names : ∀ segments members, value.Reaches segments (.object members) →
      ∀ name item, (name, item) ∈ members → isIntegerKey name = true → isPlainName name = true) :
    PlainKeys source scope t value := by
  intro scope' key element members visits _ name item there integer
  obtain ⟨segments, reaches⟩ := visits.exists_reaches
  exact names segments members reaches name item there integer

namespace Registry

/-- **`number` is wider than `integer`.** A value without findings has none after every `integer` of
its type and of all definitions is replaced by `number`, if the names that are held against
integers as keys have neither a plus sign nor a zero in front of further digits. -/
theorem findings_widen (plain : PlainKeys source .empty t value)
    (h : source.findings t value = []) : source.widen.findings t.widen value = [] :=
  check_widen .empty expansionLimit t value plain h

theorem findings_map_eq_nil {kind : TypeExpr} {members : List (String × Json)}
    (noText : keyType? (some kind) = none) :
    source.findings (.map (some kind) none) (.object members) = [] ↔
      ∀ name item, (name, item) ∈ members → keyKindFindings (some kind) name = [] := by
  rw [findings, check_map_eq_nil]
  simp [noText]

/-- At a map with integers as keys, plain names are also what it takes. -/
theorem findings_widen_map_iff {members : List (String × Json)}
    (h : source.findings (.map (some .integer) none) (.object members) = []) :
    source.widen.findings (TypeExpr.map (some .integer) none).widen (.object members) = [] ↔
      ∀ name item, (name, item) ∈ members → isPlainName name = true := by
  show source.widen.findings (.map (some .number) none) (.object members) = [] ↔ _
  rw [findings_map_eq_nil rfl] at h ⊢
  refine forall₃_congr fun name item there => ?_
  have integer : isIntegerKey name = true := by
    by_contra other
    have found := h name item there
    rw [keyKindFindings, Option.map_some, TypeExpr.unwrapped] at found
    · simp only [if_neg other, List.cons_ne_nil] at found
    all_goals simp
  rw [← isSome_ofText?_iff integer]
  show (if (Number.ofText? name).isSome then [] else _) = [] ↔ _
  split <;> simp_all

/-- A ledger from days to amounts, with a parameter for the amounts. -/
def ledgers : Registry :=
  let ledger : AliasDef :=
    { name := "Ledger", typeParams := ["T"], target := .map (some .integer) (some (.var "T")) }
  ⟨[("Ledger", .aliased ledger)], []⟩

/-- A ledger of integers, its days under plain names, is one of numbers. -/
theorem findings_widen_ledger :
    ledgers.widen.findings (TypeExpr.named "Ledger" [.integer]).widen
      (.object [("-12", .number .zero), ("0", .number .zero)]) = [] := by
  refine findings_widen (PlainKeys.of_names ?names) ?passes
  case names =>
    intro segments members reaches name item there _
    cases reaches with
    | here =>
      simp only [List.mem_cons, Prod.mk.injEq, List.not_mem_nil, or_false] at there
      rcases there with ⟨rfl, -⟩ | ⟨rfl, -⟩ <;> rfl
    | member inner reaches =>
      simp only [List.mem_cons, Prod.mk.injEq, List.not_mem_nil, or_false] at inner
      rcases inner with ⟨rfl, rfl⟩ | ⟨rfl, rfl⟩ <;> cases reaches
  case passes =>
    rw [findings, show expansionLimit = 63 + 1 from rfl, check_aliased rfl]
    refine check_map_eq_nil.mpr ⟨_, rfl, fun name item there => ?_⟩
    simp only [List.mem_cons, Prod.mk.injEq, List.not_mem_nil, or_false] at there
    refine ⟨?kinds, fun narrow narrowed => ?keys, fun t amount => ?items⟩
    case kinds => rcases there with ⟨rfl, -⟩ | ⟨rfl, -⟩ <;> decide
    case keys => cases narrowed
    case items =>
      cases amount
      rw [check_var_of_some rfl]
      rcases there with ⟨-, rfl⟩ | ⟨-, rfl⟩ <;> exact check_integer_eq_nil.mpr rfl

/-- Names with a plus sign or a zero in front are integers, but no numbers. -/
theorem not_findings_widen :
    ¬∀ (source : Registry) (t : TypeExpr) (value : Json), source.findings t value = [] →
      source.widen.findings t.widen value = [] := by
  intro claimed
  have passes : empty.findings (.map (some .integer) none) (.object [("+1", .bool true)]) = [] := by
    rw [findings_map_eq_nil rfl]
    simp only [List.mem_singleton, Prod.mk.injEq, and_imp]
    rintro name item rfl rfl
    decide
  have plain := (findings_widen_map_iff passes).mp (claimed _ _ _ passes)
  exact absurd (plain _ _ (.head _)) (by decide)

end Registry

end

end SchemaDialogue
