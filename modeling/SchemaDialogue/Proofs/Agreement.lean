import SchemaDialogue.Proofs.Expansion
import SchemaDialogue.Proofs.Members

/-!
# The declarations and the check agree

The declarations that are shown and the check describe the same values, for schemas whose graph is
built without errors and whose declarations lose nothing (`Readable`). Conformance is simulated by
the reading of the declarations and the other way round:

* **forth**: what conforms inhabits (`Conforms.forth`), along the derivation of conformance, with
  one lemma for each form of type (`Forth.record` and its siblings);
* **back**: what inhabits conforms (`Inhabits.back`), along the derivation of inhabitation, with
  one lemma for each form of node (`Back.interface` and its siblings);
* **agreement**: `Schema.findings_eq_nil_iff_inhabits`.
-/

namespace SchemaDialogue

/-- Nothing that the definitions say is lost in the declarations of a graph. -/
structure Readable (source : Registry) (g : Graph) : Prop where
  bases : ∀ key r, key ∈ g.declarations.keys → source.lookup key = some (.record r) → r.bases = []
  fields : ∀ key r, key ∈ g.declarations.keys → source.lookup key = some (.record r) →
    (r.fields.map (·.name)).Nodup
  params : ∀ key definition, key ∈ g.declarations.keys → source.lookup key = some definition →
    definition.typeParams.Nodup
  /-- No type parameter is named like a declaration. -/
  fresh : ∀ key definition name, key ∈ g.declarations.keys →
    source.lookup key = some definition → name ∈ definition.typeParams →
    name ∉ g.list.map Declaration.name
  /-- No declaration has the name of maps. -/
  maps : "Record" ∉ g.list.map Declaration.name
  plain : ∀ key definition t, key ∈ g.declarations.keys → source.lookup key = some definition →
    t ∈ definition.types → Plain definition.typeParams t

variable {source : Registry} {g : Graph} {scope : Scope}

theorem Registry.declaration_of_aliased {key : TypeKey} {a : AliasDef}
    (lookup : source.lookup key = some (.aliased a)) :
    source.declaration key =
      .aliased ⟨a.name, a.typeParams, a.doc.getD "", a.target.node source⟩ := by
  unfold declaration
  rw [lookup]

theorem Registry.declaration_of_record {key : TypeKey} {r : RecordDef}
    (lookup : source.lookup key = some (.record r)) :
    source.declaration key = .interface (r.declaration source) := by
  unfold declaration
  rw [lookup]

namespace Readable

variable {key : TypeKey} {definition : TypeDef} {r : RecordDef}

theorem errors_of_record (complete : g.Complete source) (declared : key ∈ g.declarations.keys)
    (lookup : source.lookup key = some (.record r)) : r.errors source = [] := by
  have := complete.errors key declared
  unfold Registry.errors at this
  rwa [lookup] at this

theorem references_of_record (complete : g.Complete source)
    (declared : key ∈ g.declarations.keys) (lookup : source.lookup key = some (.record r)) :
    ∀ k ∈ r.references source, k ∈ g.declarations.keys := by
  have := complete.references key declared
  unfold Registry.references at this
  rwa [lookup] at this

/-- The type expressions of what is declared are legible. -/
theorem legible (readable : Readable source g) (complete : g.Complete source)
    (declared : key ∈ g.declarations.keys) (lookup : source.lookup key = some definition)
    {t : TypeExpr} (mem : t ∈ definition.types) :
    Legible source g definition.typeParams t := by
  have plain := readable.plain key definition t declared lookup mem
  cases definition with
  | opaqueType name => cases mem
  | aliased a =>
    have errors := complete.errors key declared
    have references := complete.references key declared
    unfold Registry.errors at errors
    unfold Registry.references at references
    rw [lookup] at errors references
    obtain rfl := List.mem_singleton.mp mem
    exact .intro plain errors references
  | record r =>
    have bases := readable.bases key r declared lookup
    have errors := errors_of_record complete declared lookup
    have references := references_of_record complete declared lookup
    -- without bases all fields are the record's own, and none is left out
    rw [RecordDef.errors, List.append_eq_nil_iff, List.append_eq_nil_iff,
      RecordDef.ownFields_of_no_bases bases, List.flatMap_eq_nil_iff] at errors
    rw [RecordDef.references, RecordDef.ownFields_of_no_bases bases] at references
    rw [TypeDef.types, bases, List.nil_append] at mem
    rcases List.mem_append.mp mem with mem | mem
    · obtain ⟨f, hf, rfl⟩ := List.mem_map.mp mem
      refine .intro plain ?_ fun k hk => references k ?_
      · have own := (List.append_eq_nil_iff.mp (errors.1.2 f hf)).2
        rwa [TypeExpr.inner_ofType, TypeExpr.errors_unwrapped] at own
      · exact List.mem_append_left _ (List.mem_append_right _ (List.mem_flatMap.mpr ⟨f, hf, hk⟩))
    · have extra := Option.mem_toList.mp mem
      rw [extra] at errors references
      exact .intro plain errors.2 fun k hk => references k (List.mem_append_right _ hk)

/-- No opaque type is declared without an error. -/
theorem not_opaque (complete : g.Complete source) (declared : key ∈ g.declarations.keys)
    {name : String} : source.lookup key ≠ some (.opaqueType name) := by
  intro lookup
  have errors := complete.errors key declared
  unfold Registry.errors at errors
  rw [lookup] at errors
  cases errors

theorem not_mem_params (readable : Readable source g) (declared : key ∈ g.declarations.keys)
    (lookup : source.lookup key = some definition) :
    ∀ d ∈ g.list, d.name ∉ definition.typeParams := fun _ hd mem =>
  readable.fresh key definition _ declared lookup mem (List.mem_map_of_mem hd)

end Readable

namespace Mirrors

variable {params : List String} {s : Scope} {e : Env} {key : TypeKey} {definition : TypeDef}

/-- A reference to what is declared finds its declaration. -/
theorem resolve_eq (mirrors : Mirrors source g params s e) (complete : g.Complete source)
    (declared : key ∈ g.declarations.keys) (lookup : source.lookup key = some definition)
    (nodes : List Node) :
    e.resolve g.list definition.name nodes = some (source.declaration key) := by
  have free := mirrors.fresh _ (complete.mem_list declared)
  have found := complete.declaration key declared
  rw [Registry.name_declaration lookup] at free found
  rw [Env.resolve, free, Option.isSome_none, Bool.and_false]
  exact found

end Mirrors

theorem Env.find?_of_resolve {e : Env} {name : String} {nodes : List Node} {d : Declaration}
    (h : e.resolve g.list name nodes = some d) : d ∈ g.list ∧ d.name = name := by
  unfold resolve at h
  split at h
  · cases h
  · exact ⟨List.mem_of_find?_eq_some h, by simpa using List.find?_some h⟩

/-! ## Forth -/

theorem inhabits_literalNode {e : Env} {choice : Literal} {value : Json}
    (admits : choice.admits value = true) : Inhabits g.list e choice.node value := by
  cases choice with
  | null =>
    cases value <;> first | exact .null | cases admits
  | bool b =>
    refine .literal ?_
    cases value <;> exact admits
  | number n =>
    refine .literal ?_
    cases value <;> exact admits
  | string text =>
    refine .literal ?_
    cases value <;> exact admits

/-- The names that are numbers are those that the check lets pass. -/
theorem admitsKey_iff {key : Option TypeExpr} (plain : PlainKey key) (name : String) :
    Node.admitsKey (TypeExpr.mapKey (TypeExpr.nodeOr source .string key)) name = true ↔
      keyKindFindings key name = [] := by
  cases key with
  | none => exact ⟨fun _ => rfl, fun _ => rfl⟩
  | some t =>
    show Node.admitsKey (TypeExpr.mapKey (t.node source)) name = true ↔ _
    unfold keyKindFindings
    rw [← TypeExpr.node_unwrapped, Option.map_some]
    rcases plain t rfl with h | h <;> rw [h]
    · exact ⟨fun _ => rfl, fun _ => rfl⟩
    · show (!true || (Number.ofText? name).isSome) = true ↔ _
      cases Number.ofText? name <;> simp

theorem keyType?_of_plainKey {key : Option TypeExpr} (plain : PlainKey key) :
    keyType? key = none := by
  cases key with
  | none => rfl
  | some t =>
    unfold keyType?
    rw [Option.map_some]
    rcases plain t rfl with h | h <;> rw [h]

/-- The value inhabits the node of the type expression, wherever an environment mirrors the
scope. -/
def Forth (source : Registry) (g : Graph) (scope : Scope) (t : TypeExpr) (value : Json) : Prop :=
  ∀ params e, Legible source g params t → Mirrors source g params scope e →
    Inhabits g.list e (t.node source) value

namespace Forth

variable {value : Json} {key : TypeKey} {args : List TypeExpr}

theorem literal {choices : List Literal} {choice : Literal} (mem : choice ∈ choices)
    (admits : choice.admits value = true) : Forth source g scope (.literal choices) value := by
  intro params e _ _
  cases choices with
  | nil => cases mem
  | cons first others => exact .union (List.mem_map_of_mem mem) (inhabits_literalNode admits)

theorem selfFree (free : scope.this = none) : Forth source g scope .self value := by
  intro params e _ mirrors
  refine .thisFree ?_
  rw [mirrors.this, free]
  rfl

theorem self {this : ClosedType} (bound : scope.this = some this)
    (h : Forth source g scope this.1 value) : Forth source g scope .self value := by
  intro params e _ mirrors
  have stands : e.this = some (this.1.node source) := by
    rw [mirrors.this, bound]
    rfl
  exact .this stands (h _ _ (mirrors.thisLegible _ bound) mirrors.closed)

theorem varFree {name : String} (free : scope.bindings.find? name = none) :
    Forth source g scope (.var name) value := by
  rintro params e ⟨⟩ mirrors
  have stands := mirrors.meaning name ‹_›
  rw [Scope.meaning, free] at stands
  exact .param stands .any

theorem var {name : String} {bound : ClosedType} (found : scope.bindings.find? name = some bound)
    (h : Forth source g scope bound.1 value) : Forth source g scope (.var name) value := by
  rintro params e ⟨⟩ mirrors
  have stands := mirrors.meaning name ‹_›
  rw [Scope.meaning, found] at stands
  exact .param stands (h _ _ (mirrors.bound _ _ found) mirrors.closed)

theorem union {members : List TypeExpr} {m : TypeExpr} (mem : m ∈ members)
    (h : Forth source g scope m value) : Forth source g scope (.union members) value := by
  intro params e legible mirrors
  cases legible with
  | union _ legible =>
    cases members with
    | nil => cases mem
    | cons first others =>
      show Inhabits g.list e (.union (TypeExpr.nodes source (first :: others))) value
      rw [TypeExpr.nodes_eq_map]
      exact .union (List.mem_map_of_mem mem) (h _ _ (legible m mem) mirrors)

theorem variadic {element : TypeExpr} {items : List Json}
    (h : ∀ item ∈ items, Forth source g scope element item) :
    Forth source g scope (.variadic element) (.array items) := by
  intro params e legible mirrors
  cases legible with
  | variadic legible => exact .array fun item mem => h item mem _ _ legible mirrors

theorem list {element : TypeExpr} {items : List Json}
    (h : ∀ item ∈ items, Forth source g scope element item) :
    Forth source g scope (.list (some element)) (.array items) := by
  intro params e legible mirrors
  cases legible with
  | list legible => exact .array fun item mem => h item mem _ _ (legible _ rfl) mirrors

theorem tuple {elements : List TypeExpr} {items : List Json}
    (length : items.length = elements.length)
    (h : ∀ p ∈ elements.zip items, Forth source g scope p.1 p.2) :
    Forth source g scope (.tuple elements) (.array items) := by
  intro params e legible mirrors
  cases legible with
  | tuple legible =>
    rw [TypeExpr.node, TypeExpr.nodes_eq_map]
    refine .tuple ?_ fun p mem => ?_
    · rw [List.length_map]
      exact length
    · rw [List.zip_map_left] at mem
      obtain ⟨q, hq, rfl⟩ := List.mem_map.mp mem
      exact h q hq _ _ (legible _ (List.of_mem_zip hq).1) mirrors

theorem map {key element : Option TypeExpr} {members : List (String × Json)}
    (kinds : ∀ name item, (name, item) ∈ members → keyKindFindings key name = [])
    (h : ∀ name item t, (name, item) ∈ members → element = some t →
      Forth source g scope t item) :
    Forth source g scope (.map key element) (.object members) := by
  intro params e legible mirrors
  cases legible with
  | map plain legible =>
    refine .record ?_ ?_
    · exact fun name item mem => (admitsKey_iff plain name).mpr (kinds name item mem)
    · intro name item mem
      cases element with
      | none => exact .any
      | some t => exact h name item t mem rfl _ _ (legible t rfl) mirrors

/-- Inside of an alias its parameters mean the arguments. -/
theorem aliased (complete : g.Complete source) (readable : Readable source g) {a : AliasDef}
    (lookup : source.lookup key = some (.aliased a))
    (h : Forth source g (scope.enter a.typeParams args) a.target value) :
    Forth source g scope (.named key args) value := by
  intro params e legible mirrors
  cases legible with
  | named declared lookup' legible =>
    obtain rfl := Option.some.inj (lookup'.symm.trans lookup)
    have resolve := mirrors.resolve_eq complete declared lookup (TypeExpr.nodes source args)
    rw [Registry.declaration_of_aliased lookup] at resolve
    rw [TypeExpr.node, lookup]
    refine .aliased resolve ?_
    rw [TypeExpr.nodes_eq_map]
    refine h _ _ (readable.legible complete declared lookup (.head _)) ?_
    exact mirrors.enter complete legible (readable.params _ _ declared lookup)
      (readable.not_mem_params declared lookup)

/-- A declared record has no bases, and its declaration asks of an object what the record does. -/
theorem record (complete : g.Complete source) (readable : Readable source g) {r : RecordDef}
    {members : List (String × Json)} (lookup : source.lookup key = some (.record r))
    (present : ∀ name f inner item,
      source.fieldOf (scope.enterRecord key r.typeParams args) r name = some (f, inner) →
      Entries.find? members name = some item → Forth source g inner f.type item)
    (missing : ∀ name f inner,
      source.fieldOf (scope.enterRecord key r.typeParams args) r name = some (f, inner) →
      Entries.find? members name = none → f.isOptional = true)
    (further : ∀ name item, (name, item) ∈ members →
      source.fieldOf (scope.enterRecord key r.typeParams args) r name = none →
      source.extraOf (scope.enterRecord key r.typeParams args) r ≠ none)
    (extra : ∀ name item t inner, (name, item) ∈ members →
      source.fieldOf (scope.enterRecord key r.typeParams args) r name = none →
      source.extraOf (scope.enterRecord key r.typeParams args) r = some (t, inner) →
      Forth source g inner t item) :
    Forth source g scope (.named key args) (.object members) := by
  intro params e legible mirrors
  cases legible with
  | named declared lookup' legible =>
    obtain rfl := Option.some.inj (lookup'.symm.trans lookup)
    have bases := readable.bases _ _ declared lookup
    have fills := Fills.of_fieldOf bases (readable.fields _ _ declared lookup) present missing
      further extra
    have resolve := mirrors.resolve_eq complete declared lookup (TypeExpr.nodes source args)
    rw [Registry.declaration_of_record lookup] at resolve
    have inside := mirrors.enterRecord complete declared lookup legible
      (readable.params _ _ declared lookup) (readable.not_mem_params declared lookup)
    rw [← TypeExpr.nodes_eq_map] at inside
    rw [TypeExpr.node, lookup]
    refine .of_fills resolve bases (fills.mono fun t mem item forth => ?_)
    exact forth _ _ (readable.legible complete declared lookup mem) inside

end Forth

/-- What conforms to a type expression inhabits its node. -/
theorem Conforms.forth (complete : g.Complete source) (readable : Readable source g)
    {limit : ℕ∞} {used : Nat} {t : TypeExpr} {value : Json}
    (h : Conforms source limit used scope t value) : Forth source g scope t value := by
  -- along the derivation; what is entered has parameters and an environment of its own
  induction h with
  | any => exact fun _ _ _ _ => .any
  | string => exact fun _ _ _ _ => .string
  | number => exact fun _ _ _ _ => .number
  | integer => rintro _ _ ⟨⟩
  | boolean => exact fun _ _ _ _ => .boolean
  | null => exact fun _ _ _ _ => .null
  | literal mem admits => exact .literal mem admits
  | required _ ih =>
    rintro _ _ ⟨⟩ mirrors
    exact ih _ _ ‹_› mirrors
  | notRequired _ ih =>
    rintro _ _ ⟨⟩ mirrors
    exact ih _ _ ‹_› mirrors
  | documented _ ih =>
    rintro _ _ ⟨⟩ mirrors
    exact ih _ _ ‹_› mirrors
  | selfFree free => exact .selfFree free
  | self bound _ _ ih => exact .self bound ih
  | varFree free => exact .varFree free
  | var found _ _ ih => exact .var found ih
  | union mem _ _ ih => exact .union mem ih
  | undescribed h =>
    intro _ _ legible _
    cases legible with
    | named _ lookup => cases h.symm.trans lookup
  | opaqueType h =>
    intro _ _ legible _
    cases legible with
    | named declared => exact absurd h (Readable.not_opaque complete declared)
  | aliased lookup _ _ ih => exact .aliased complete readable lookup ih
  | record lookup _ missing further _ present extra =>
    exact .record complete readable lookup present missing further extra
  | listAny => exact fun _ _ _ _ => .array fun _ _ => .any
  | list _ ih => exact .list ih
  | variadic _ ih => exact .variadic ih
  | tuple length _ ih => exact .tuple length ih
  | map kinds _ _ _ ih => exact .map kinds ih

/-! ## Back -/

theorem admits_of_inhabits {e : Env} {choice : Literal} {value : Json}
    (h : Inhabits g.list e choice.node value) : choice.admits value = true := by
  cases choice with
  | null =>
    cases h
    rfl
  | bool b =>
    cases h with
    | literal admits => cases value <;> exact admits
  | number n =>
    cases h with
    | literal admits => cases value <;> exact admits
  | string text =>
    cases h with
    | literal admits => cases value <;> exact admits

/-- The value conforms to each type expression that is written as the node, wherever the environment
mirrors a scope. -/
def Back (source : Registry) (g : Graph) (e : Env) (n : Node) (value : Json) : Prop :=
  ∀ params scope u, Written source g params u n → Mirrors source g params scope e →
    Conforms source ⊤ 0 scope u value

namespace Back

variable {e : Env} {n : Node} {value : Json} {name : String} {args : List Node}
  {params : List String}

theorem conforms {t : TypeExpr} (h : Back source g e (t.node source) value)
    (legible : Legible source g params t) (mirrors : Mirrors source g params scope e) :
    Conforms source ⊤ 0 scope t value :=
  Conforms.unwrapped_iff.mp (h _ _ _ legible.written mirrors)

theorem thisFree (free : e.this = none) : Back source g e (.primitive .this) value := by
  rintro params scope u ⟨⟩ mirrors
  rw [mirrors.this, Option.map_eq_none_iff] at free
  exact .selfFree free

theorem this (stands : e.this = some n) (h : Back source g ⟨[], e.this⟩ n value) :
    Back source g e (.primitive .this) value := by
  rintro params scope u ⟨⟩ mirrors
  have stands' := stands
  rw [mirrors.this, Option.map_eq_some_iff] at stands'
  obtain ⟨this, bound, rfl⟩ := stands'
  have conforms := h.conforms (mirrors.thisLegible this bound) mirrors.closed
  exact .self bound (ENat.natCast_lt_top _) conforms.unlimited

theorem array {items : List Json} (h : ∀ item ∈ items, Back source g e n item) :
    Back source g e (.array n) (.array items) := by
  intro params scope u written mirrors
  cases written with
  | @list element _ legible node =>
    cases element with
    | none => exact .listAny
    | some t =>
      subst node
      exact .list fun item mem => (h item mem).conforms (legible t rfl) mirrors
  | variadic legible node =>
    subst node
    exact .variadic fun item mem => (h item mem).conforms legible mirrors

theorem tuple {nodes : List Node} {items : List Json} (length : items.length = nodes.length)
    (h : ∀ p ∈ nodes.zip items, Back source g e p.1 p.2) :
    Back source g e (.tuple nodes) (.array items) := by
  intro params scope u written mirrors
  cases written with
  | tuple legible written =>
    subst written
    rw [List.length_map] at length
    refine .tuple length fun p mem => ?_
    refine (h (p.1.node source, p.2) ?_).conforms (legible p.1 (List.of_mem_zip mem).1) mirrors
    rw [List.zip_map_left]
    exact List.mem_map.mpr ⟨p, mem, rfl⟩

theorem union {nodes : List Node} (mem : n ∈ nodes) (inhabits : Inhabits g.list e n value)
    (h : Back source g e n value) : Back source g e (.union nodes) value := by
  intro params scope u written mirrors
  cases written with
  | union legible written =>
    subst written
    obtain ⟨m, hm, rfl⟩ := List.mem_map.mp mem
    exact .union hm (ENat.natCast_lt_top _) (h.conforms (legible m hm) mirrors).unlimited
  | literal written =>
    subst written
    obtain ⟨choice, hchoice, rfl⟩ := List.mem_map.mp mem
    exact .literal hchoice (admits_of_inhabits inhabits)

/-- No parameter hides what is declared, so that it is a type parameter that stands for the node. -/
theorem param (complete : g.Complete source) (found : e.params.find? name = some n)
    (h : Back source g ⟨[], e.this⟩ n value) : Back source g e (.reference name []) value := by
  intro params scope u written mirrors
  cases written with
  | var mem =>
    have stands := mirrors.meaning name mem
    rw [found, Scope.meaning] at stands
    cases bound : scope.bindings.find? name with
    | none => exact .varFree bound
    | some t =>
      rw [bound] at stands
      obtain rfl := Option.some.inj stands
      have conforms := h.conforms (mirrors.bound name t bound) mirrors.closed
      exact .var bound (ENat.natCast_lt_top _) conforms.unlimited
  | named declared lookup _ hname =>
    have free := mirrors.fresh _ (complete.mem_list declared)
    rw [Registry.name_declaration lookup, hname, found] at free
    cases free

/-- No declaration has the name of maps, so that it is a map that is written. -/
theorem map (complete : g.Complete source) (readable : Readable source g) {key element : Node}
    {members : List (String × Json)}
    (names : ∀ name item, (name, item) ∈ members → Node.admitsKey key name = true)
    (h : ∀ name item, (name, item) ∈ members → Back source g e element item) :
    Back source g e (.reference "Record" [key, element]) (.object members) := by
  intro params scope u written mirrors
  cases written with
  | named declared lookup _ hname =>
    have mem := complete.name_mem declared lookup
    rw [hname] at mem
    exact absurd mem readable.maps
  | @map key value _ _ plain legible hkey hvalue =>
    subst hkey hvalue
    refine .map ?_ ?_ ?_
    · exact fun name item mem => (admitsKey_iff plain name).mp (names name item mem)
    · intro name item narrow _ hkey
      rw [keyType?_of_plainKey plain] at hkey
      cases hkey
    · rintro name item t mem rfl
      exact (h name item mem).conforms (legible t rfl) mirrors

end Back

/-- A reference that a declaration is found for is written for what is declared. -/
theorem Written.of_resolve (complete : g.Complete source) (readable : Readable source g) {e : Env}
    {name : String} {nodes : List Node} {d : Declaration} {params : List String} {u : TypeExpr}
    (written : Written source g params u (.reference name nodes))
    (mirrors : Mirrors source g params scope e) (resolve : e.resolve g.list name nodes = some d) :
    ∃ key args definition, u = .named key args ∧ key ∈ g.declarations.keys ∧
      source.lookup key = some definition ∧ (∀ a ∈ args, Legible source g params a) ∧
      definition.name = name ∧ args.map (TypeExpr.node source) = nodes ∧
      source.declaration key = d := by
  cases written with
  | var mem =>
    rw [Env.resolve, mirrors.meaning name mem] at resolve
    cases resolve
  | map =>
    obtain ⟨mem, same⟩ := Env.find?_of_resolve resolve
    exact absurd (same ▸ List.mem_map_of_mem mem) readable.maps
  | @named key args definition _ _ declared lookup legible hname hargs =>
    have same := hname ▸ mirrors.resolve_eq complete declared lookup nodes
    exact ⟨key, args, definition, rfl, declared, lookup, legible, hname, hargs,
      Option.some.inj (same.symm.trans resolve)⟩

namespace Back

variable {e : Env} {value : Json} {name : String} {args : List Node}

theorem aliased (complete : g.Complete source) (readable : Readable source g) {a : AliasDecl}
    (resolve : e.resolve g.list name args = some (.aliased a))
    (h : Back source g (e.enter a.typeParams args) a.target value) :
    Back source g e (.reference name args) value := by
  intro params scope u written mirrors
  obtain ⟨key, args, definition, rfl, declared, lookup, legible, rfl, rfl, same⟩ :=
    written.of_resolve complete readable mirrors resolve
  cases definition with
  | opaqueType other => exact absurd lookup (Readable.not_opaque complete declared)
  | record r =>
    rw [Registry.declaration_of_record lookup] at same
    cases same
  | aliased a' =>
    rw [Registry.declaration_of_aliased lookup] at same
    cases same
    have inside := mirrors.enter complete legible (readable.params _ _ declared lookup)
      (readable.not_mem_params declared lookup)
    have conforms := h.conforms (readable.legible complete declared lookup (.head _)) inside
    exact .aliased lookup (ENat.natCast_lt_top _) conforms.unlimited

theorem interface (complete : g.Complete source) (readable : Readable source g)
    {i : InterfaceDecl} {members : List (String × Json)}
    (resolve : e.resolve g.list name args = some (.interface i))
    (present : ∀ p item, Member.property p ∈ i.members →
      Entries.find? members p.name = some item →
      Back source g (e.enterInterface name i.typeParams args) p.type item)
    (missing : ∀ p, Member.property p ∈ i.members → Entries.find? members p.name = none →
      p.optional = true)
    (further : ∀ name' item, (name', item) ∈ members → ¬i.HasProperty name' →
      ∃ key element, Member.index key element ∈ i.members)
    (extra : ∀ name' item key element, (name', item) ∈ members → ¬i.HasProperty name' →
      Member.index key element ∈ i.members →
      Back source g (e.enterInterface name i.typeParams args) element item) :
    Back source g e (.reference name args) (.object members) := by
  intro params scope u written mirrors
  obtain ⟨key, args, definition, rfl, declared, lookup, legible, rfl, rfl, same⟩ :=
    written.of_resolve complete readable mirrors resolve
  cases definition with
  | opaqueType other => exact absurd lookup (Readable.not_opaque complete declared)
  | aliased a =>
    rw [Registry.declaration_of_aliased lookup] at same
    cases same
  | record r =>
    rw [Registry.declaration_of_record lookup] at same
    cases same
    have bases := readable.bases _ _ declared lookup
    have fills := Fills.of_declaration source bases present missing further extra
    have inside := mirrors.enterRecord complete declared lookup legible
      (readable.params _ _ declared lookup) (readable.not_mem_params declared lookup)
    refine .of_fills lookup bases (fills.mono fun t mem item back => ?_)
    exact back.conforms (readable.legible complete declared lookup mem) inside

end Back

/-- What inhabits the node of a type expression conforms to it. -/
theorem Inhabits.back (complete : g.Complete source) (readable : Readable source g) {e : Env}
    {n : Node} {value : Json} (h : Inhabits g.list e n value) : Back source g e n value := by
  induction h with
  | any => rintro _ _ _ ⟨⟩ _; exact .any
  | string => rintro _ _ _ ⟨⟩ _; exact .string
  | number => rintro _ _ _ ⟨⟩ _; exact .number
  | boolean => rintro _ _ _ ⟨⟩ _; exact .boolean
  | null => rintro _ _ _ ⟨⟩ _; exact .null
  | literal => rintro _ _ _ ⟨⟩
  | thisFree free => exact .thisFree free
  | this stands _ ih => exact .this stands ih
  | array _ ih => exact .array ih
  | tuple length _ ih => exact .tuple length ih
  | union mem inhabits ih => exact .union mem inhabits ih
  | param found _ ih => exact .param complete found ih
  | record names _ ih => exact .map complete readable names ih
  | aliased resolve _ ih => exact .aliased complete readable resolve ih
  | interface resolve _ _ missing further _ _ present extra =>
    exact .interface complete readable resolve present missing further extra

/-! ## Agreement -/

/-- The declarations that are shown and the check describe the same values. -/
theorem Schema.findings_eq_nil_iff_inhabits (schema : Schema) (value : Json)
    (ok : schema.graph.errors = []) (readable : Readable schema.source schema.graph)
    (short : ShortChains schema.source .empty schema.rootType value) :
    schema.findings value = [] ↔
      Inhabits schema.graph.list {} (.reference schema.typeName []) value := by
  obtain ⟨complete, declared⟩ := Graph.complete_of_errors ok
  obtain ⟨definition, lookup⟩ :
      ∃ definition, schema.source.lookup schema.root = some definition := by
    have errors := complete.errors _ declared
    unfold Registry.errors at errors
    cases lookup : schema.source.lookup schema.root with
    | none =>
      rw [lookup] at errors
      cases errors
    | some definition => exact ⟨definition, rfl⟩
  have legible : Legible schema.source schema.graph [] schema.rootType :=
    .named declared lookup fun a ha => by cases ha
  have node : schema.rootType.node schema.source = .reference schema.typeName [] := by
    rw [rootType, TypeExpr.reference, TypeExpr.node, typeName, lookup]
    rfl
  rw [← node]
  refine (Registry.findings_eq_nil_iff_conforms short).trans ⟨?_, ?_⟩
  · exact fun conforms => conforms.forth complete readable _ _ legible .empty
  · exact fun inhabits => inhabits.back complete readable _ _ _ legible.written .empty

namespace Registry

theorem lookup_links {key : TypeKey} {definition : TypeDef}
    (h : links.lookup key = some definition) :
    key = "Link" ∧ definition = .record
      { name := "Link", fields := [{ name := "next", type := .self, optional := true }] } :=
  Entries.eq_of_find?_singleton h

theorem graph_links : (Graph.build links "Link").list =
    [.interface ⟨"Link", [], "", [], [.property ⟨"next", true, "", .primitive .this⟩]⟩] ∧
    (Graph.build links "Link").errors = [] := by
  have references : links.references "Link" = [] := by
    show RecordDef.references links _ = []
    rw [RecordDef.references, RecordDef.ownFields_of_no_bases rfl]
    rfl
  rw [Graph.build_of_no_references references]
  constructor
  · show [Declaration.interface (RecordDef.declaration links _)] = _
    rw [RecordDef.declaration, RecordDef.ownFields_of_no_bases rfl]
    rfl
  · show RecordDef.errors links _ = []
    rw [RecordDef.errors, RecordDef.ownFields_of_no_bases rfl]
    rfl

theorem readable_links : Readable links (Graph.build links "Link") where
  bases key r _ lookup := by
    obtain ⟨_, heq⟩ := lookup_links lookup
    cases heq
    rfl
  fields key r _ lookup := by
    obtain ⟨_, heq⟩ := lookup_links lookup
    cases heq
    decide
  params key definition _ lookup := by
    obtain ⟨_, rfl⟩ := lookup_links lookup
    exact List.nodup_nil
  fresh key definition name _ lookup mem := by
    obtain ⟨_, rfl⟩ := lookup_links lookup
    cases mem
  maps := by
    rw [graph_links.1]
    decide
  plain key definition t _ lookup mem := by
    obtain ⟨_, rfl⟩ := lookup_links lookup
    obtain rfl := List.mem_singleton.mp mem
    refine ⟨?_, ?_, ?_⟩
    · exact fun h => by cases h
    · exact fun name h => by cases h
    · exact fun key value h => by cases h

/-- Chains from links are short: each of them is a descent away from the next. -/
theorem shortChains_links (scope : Scope) (value : Json) :
    ShortChains links scope (.named "Link" []) value := by
  generalize hsize : value.size = size
  induction size using Nat.strong_induction_on generalizing scope value with
  | _ size ih =>
    subst hsize
    refine .of_record rfl fun _ _ _ step => ?_
    cases step with
    | extra lookup _ _ hextra =>
      cases (lookup_links lookup).2
      cases hextra
    | field lookup hfield hitem =>
      cases (lookup_links lookup).2
      rw [fieldOf_of_no_bases rfl, Option.map_eq_some_iff] at hfield
      obtain ⟨_, hf, heq⟩ := hfield
      cases heq
      obtain rfl := List.mem_singleton.mp (List.mem_of_find?_eq_some hf)
      -- one expansion leads from `self` to the next link
      refine .intro ?_ ?_
      · intro n _ _ h
        cases h with
        | refl => decide
        | self this chain =>
          cases this
          rw [(chain.of_record rfl).1]
          decide
      · intro _ _ _ _ _ _ h step
        cases h with
        | refl => cases step
        | self this chain =>
          cases this
          obtain ⟨_, rfl, rfl⟩ := chain.of_record rfl
          exact (ih _ (Json.size_lt_of_find? hitem) _ _ rfl).descend step

end Registry

/-- What the declaration of a link says of two links. -/
theorem Schema.inhabits_links :
    Inhabits (Schema.graph ⟨Registry.links, "Link"⟩).list {} (.reference "Link" [])
      (.object [("next", .object [])]) := by
  refine (Schema.findings_eq_nil_iff_inhabits ⟨Registry.links, "Link"⟩ _ Registry.graph_links.2
    Registry.readable_links (Registry.shortChains_links _ _)).mp ?_
  have within : Conforms Registry.links expansionLimit 0 .empty (.named "Link" [])
      (.object [("next", .object [])]) := by
    refine Registry.conforms_link (by simp) fun item hitem => ?_
    cases hitem
    refine .self rfl (Nat.cast_lt.mpr (by decide)) ?_
    exact Registry.conforms_link (fun p hp => by cases hp) fun item hitem => by cases hitem
  exact Registry.check_eq_nil_of_conforms within (by decide)

end SchemaDialogue
