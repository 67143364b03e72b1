import SchemaDialogue.Proofs.Inhabitation
import SchemaDialogue.Proofs.Parts
import SchemaDialogue.Proofs.Walk

/-!
# What a declaration shows

A type expression is legible when each of its forms has a node of its own: it has no integers, its
map keys are texts or numbers, and what it names is declared (`Legible`).

* **errors**: a type expression without errors is legible when what it names is declared
  (`Legible.intro`);
* **nodes**: each node comes from few forms (`Legible.written`);
* **substitution**: closing the node of a type expression gives the node of what it means
  (`Mirrors.node_substitute`), and both sides enter a definition in step (`Mirrors.enter`,
  `Mirrors.enterRecord`).
-/

namespace SchemaDialogue

namespace TypeExpr

variable {source : Registry}

theorem nodes_eq_map (ts : List TypeExpr) : nodes source ts = ts.map (node source) := by
  induction ts with
  | nil => rfl
  | cons t rest ih => rw [nodes, ih, List.map_cons]

theorem errorsAll_eq_flatMap (ts : List TypeExpr) :
    errorsAll source ts = ts.flatMap (errors source) := by
  induction ts with
  | nil => rfl
  | cons t rest ih => rw [errorsAll, ih, List.flatMap_cons]

theorem referencesAll_eq_flatMap (ts : List TypeExpr) :
    referencesAll source ts = ts.flatMap (references source) := by
  induction ts with
  | nil => rfl
  | cons t rest ih => rw [referencesAll, ih, List.flatMap_cons]

/-! ## Wrappers -/

theorem node_unwrapped (t : TypeExpr) : t.unwrapped.node source = t.node source := by
  induction t using TypeExpr.induction with
  | required inner ih => rwa [unwrapped, node]
  | notRequired inner ih => rwa [unwrapped, node]
  | documented doc inner ih => rwa [unwrapped, node]
  | _ => rfl

theorem errors_unwrapped (t : TypeExpr) : t.unwrapped.errors source = t.errors source := by
  induction t using TypeExpr.induction with
  | required inner ih => rwa [unwrapped, errors]
  | notRequired inner ih => rwa [unwrapped, errors]
  | documented doc inner ih => rwa [unwrapped, errors]
  | _ => rfl

theorem inner_ofType (t : TypeExpr) : (FieldWrapping.ofType t).inner = t.unwrapped := by
  induction t using TypeExpr.induction with
  | required inner ih => exact ih
  | notRequired inner ih => exact ih
  | documented doc inner ih => exact ih
  | _ => rfl

/-- The wrappers of a field's type say the same to the declaration and to the check. -/
theorem optional_ofType (t : TypeExpr) (byDefault : Bool) :
    (FieldWrapping.ofType t).optional.getD byDefault = FieldDef.optionality byDefault t := by
  induction t using TypeExpr.induction with
  | documented doc inner ih => exact ih
  | _ => rfl

end TypeExpr

theorem FieldDef.property_type {source : Registry} (f : FieldDef) :
    (f.property source).type = f.type.node source := by
  show (FieldWrapping.ofType f.type).inner.node source = _
  rw [TypeExpr.inner_ofType, TypeExpr.node_unwrapped]

theorem FieldDef.property_optional {source : Registry} (f : FieldDef) :
    (f.property source).optional = f.isOptional :=
  TypeExpr.optional_ofType f.type f.optional

/-- The keys of a map are any texts, or numbers. -/
def PlainKey (key : Option TypeExpr) : Prop :=
  ∀ t, key = some t → t.unwrapped = .string ∨ t.unwrapped = .number

/-- Nothing in a type expression is lost in its node, and it only uses these type parameters. -/
structure Plain (params : List String) (t : TypeExpr) : Prop where
  integer : ¬TypeExpr.Part .integer t
  vars : ∀ name, TypeExpr.Part (.var name) t → name ∈ params
  keys : ∀ key value, TypeExpr.Part (.map key value) t → PlainKey key

theorem Plain.part {params : List String} {t u : TypeExpr} (h : Plain params t)
    (part : TypeExpr.Part u t) : Plain params u where
  integer inside := h.integer (inside.trans part)
  vars name inside := h.vars name (inside.trans part)
  keys key value inside := h.keys key value (inside.trans part)

/-- A type expression whose node says all that it says, `params` being the type parameters around
it. -/
inductive Legible (source : Registry) (g : Graph) (params : List String) : TypeExpr → Prop
  | string : Legible source g params .string
  | number : Legible source g params .number
  | boolean : Legible source g params .boolean
  | any : Legible source g params .any
  | null : Legible source g params .null
  | never : Legible source g params .never
  | self : Legible source g params .self
  | var {name} : name ∈ params → Legible source g params (.var name)
  | named {key args definition} : key ∈ g.declarations.keys →
      source.lookup key = some definition → (∀ a ∈ args, Legible source g params a) →
      Legible source g params (.named key args)
  | list {element} : (∀ t, element = some t → Legible source g params t) →
      Legible source g params (.list element)
  | map {key value} : PlainKey key → (∀ t, value = some t → Legible source g params t) →
      Legible source g params (.map key value)
  | tuple {elements} : (∀ t ∈ elements, Legible source g params t) →
      Legible source g params (.tuple elements)
  | variadic {element} : Legible source g params element →
      Legible source g params (.variadic element)
  | union {members} : members ≠ [] → (∀ t ∈ members, Legible source g params t) →
      Legible source g params (.union members)
  | literal {choices} : choices ≠ [] → Legible source g params (.literal choices)
  | required {inner} : Legible source g params inner → Legible source g params (.required inner)
  | notRequired {inner} : Legible source g params inner →
      Legible source g params (.notRequired inner)
  | documented {doc inner} : Legible source g params inner →
      Legible source g params (.documented doc inner)

/-- How a type expression without wrappers is written. -/
inductive Written (source : Registry) (g : Graph) (params : List String) : TypeExpr → Node → Prop
  | string : Written source g params .string (.primitive .string)
  | number : Written source g params .number (.primitive .number)
  | boolean : Written source g params .boolean (.primitive .boolean)
  | any : Written source g params .any (.primitive .any)
  | null : Written source g params .null (.primitive .null)
  | never : Written source g params .never (.primitive .never)
  | self : Written source g params .self (.primitive .this)
  | var {name} : name ∈ params → Written source g params (.var name) (.reference name [])
  | named {key args definition name nodes} : key ∈ g.declarations.keys →
      source.lookup key = some definition → (∀ a ∈ args, Legible source g params a) →
      definition.name = name → args.map (TypeExpr.node source) = nodes →
      Written source g params (.named key args) (.reference name nodes)
  | list {element n} : (∀ t, element = some t → Legible source g params t) →
      TypeExpr.nodeOr source .any element = n →
      Written source g params (.list element) (.array n)
  | map {key value k v} : PlainKey key → (∀ t, value = some t → Legible source g params t) →
      TypeExpr.mapKey (TypeExpr.nodeOr source .string key) = k →
      TypeExpr.nodeOr source .any value = v →
      Written source g params (.map key value) (.reference "Record" [k, v])
  | tuple {elements nodes} : (∀ t ∈ elements, Legible source g params t) →
      elements.map (TypeExpr.node source) = nodes →
      Written source g params (.tuple elements) (.tuple nodes)
  | variadic {element n} : Legible source g params element → element.node source = n →
      Written source g params (.variadic element) (.array n)
  | union {members nodes} : (∀ t ∈ members, Legible source g params t) →
      members.map (TypeExpr.node source) = nodes →
      Written source g params (.union members) (.union nodes)
  | literal {choices nodes} : choices.map Literal.node = nodes →
      Written source g params (.literal choices) (.union nodes)

namespace Legible

variable {source : Registry} {g : Graph} {params : List String} {t : TypeExpr}

/-- A type expression that is legible is written in one of these ways. -/
theorem written (h : Legible source g params t) :
    Written source g params t.unwrapped (t.node source) := by
  induction h with
  | required _ ih => exact ih
  | notRequired _ ih => exact ih
  | documented _ ih => exact ih
  | string => exact .string
  | number => exact .number
  | boolean => exact .boolean
  | any => exact .any
  | null => exact .null
  | never => exact .never
  | self => exact .self
  | var h => exact .var h
  | named declared lookup args =>
    rw [TypeExpr.node, lookup]
    exact .named declared lookup args rfl (TypeExpr.nodes_eq_map _).symm
  | list element => exact .list element rfl
  | map key value => exact .map key value rfl rfl
  | tuple elements => exact .tuple elements (TypeExpr.nodes_eq_map _).symm
  | variadic element => exact .variadic element rfl
  | @union members ne all =>
    cases members with
    | nil => exact absurd rfl ne
    | cons first others => exact .union all (TypeExpr.nodes_eq_map (first :: others)).symm
  | @literal choices ne =>
    cases choices with
    | nil => exact absurd rfl ne
    | cons first others => exact .literal rfl

open TypeExpr in
/-- A plain type expression without errors is legible when all that it names is declared. -/
theorem intro (plain : Plain params t) (errors : t.errors source = [])
    (declared : ∀ k ∈ t.references source, k ∈ g.declarations.keys) :
    Legible source g params t := by
  induction t using TypeExpr.induction with
  | integer => exact absurd .refl plain.integer
  | var name => exact .var (plain.vars name .refl)
  | string => exact .string
  | number => exact .number
  | boolean => exact .boolean
  | any => exact .any
  | null => exact .null
  | never => exact .never
  | self => exact .self
  | named key args ih =>
    unfold TypeExpr.errors at errors
    unfold references Registry.contains at declared
    cases lookup : source.lookup key with
    | none =>
      rw [lookup] at errors
      cases errors
    | some definition =>
      rw [lookup] at errors declared
      rw [Option.isSome_some, if_pos rfl, referencesAll_eq_flatMap] at declared
      have errors := (List.append_eq_nil_iff.mp errors).2
      rw [errorsAll_eq_flatMap, List.flatMap_eq_nil_iff] at errors
      refine .named (declared key (.head _)) lookup fun a ha => ?_
      refine ih a ha (plain.part (.named ha .refl)) (errors a ha) fun k hk => ?_
      exact declared k (.tail _ (List.mem_flatMap.mpr ⟨a, ha, hk⟩))
  | list element ih =>
    refine .list ?_
    rintro u rfl
    exact ih u rfl (plain.part (.list .refl)) errors declared
  | map key value _ ih =>
    unfold TypeExpr.errors at errors
    unfold references at declared
    refine .map (plain.keys key value .refl) ?_
    rintro u rfl
    refine ih u rfl (plain.part (.value .refl)) (List.append_eq_nil_iff.mp errors).2 fun k hk => ?_
    exact declared k (List.mem_append_right _ hk)
  | tuple elements ih =>
    rw [TypeExpr.errors, errorsAll_eq_flatMap, List.flatMap_eq_nil_iff] at errors
    rw [references, referencesAll_eq_flatMap] at declared
    refine .tuple fun u hu => ?_
    refine ih u hu (plain.part (.tuple hu .refl)) (errors u hu) fun k hk => ?_
    exact declared k (List.mem_flatMap.mpr ⟨u, hu, hk⟩)
  | variadic element ih =>
    rw [TypeExpr.errors] at errors
    rw [references] at declared
    exact .variadic (ih (plain.part (.variadic .refl)) errors declared)
  | union members ih =>
    cases members with
    | nil => cases errors
    | cons first others =>
      have errors : errorsAll source (first :: others) = [] := errors
      rw [errorsAll_eq_flatMap, List.flatMap_eq_nil_iff] at errors
      rw [references, referencesAll_eq_flatMap] at declared
      refine .union (List.cons_ne_nil _ _) fun u hu => ?_
      refine ih u hu (plain.part (.union hu .refl)) (errors u hu) fun k hk => ?_
      exact declared k (List.mem_flatMap.mpr ⟨u, hu, hk⟩)
  | literal choices =>
    cases choices with
    | nil => cases errors
    | cons first others => exact .literal (List.cons_ne_nil _ _)
  | required inner ih =>
    rw [TypeExpr.errors] at errors
    rw [references] at declared
    exact .required (ih (plain.part (.required .refl)) errors declared)
  | notRequired inner ih =>
    rw [TypeExpr.errors] at errors
    rw [references] at declared
    exact .notRequired (ih (plain.part (.notRequired .refl)) errors declared)
  | documented doc inner ih =>
    rw [TypeExpr.errors] at errors
    rw [references] at declared
    exact .documented (ih (plain.part (.documented .refl)) errors declared)

end Legible

/-- A parameter stands for its argument, or for any value when there is none. -/
theorem Env.find?_bind {α : Type} (f : α → Node) {params : List String} {name : String}
    (mem : name ∈ params) (args : List α) :
    (Env.bind params (args.map f)).find? name =
      some ((Entries.find? (params.zip args) name).elim .any f) := by
  -- along the parameters; the arguments may be used up before them
  induction params generalizing args with
  | nil => cases mem
  | cons param rest ih =>
    rw [Env.bind, Entries.find?, List.lookup_cons]
    by_cases hname : name = param
    · subst hname
      rw [beq_self_eq_true]
      cases args with
      | nil => rfl
      | cons a as =>
        rw [List.zip_cons_cons, Entries.find?, List.lookup_cons, beq_self_eq_true]
        rfl
    · have mem := (List.mem_cons.mp mem).resolve_left hname
      rw [beq_eq_false_iff_ne.mpr hname]
      cases args with
      | nil => exact (ih mem []).trans (by rw [List.zip_nil_right, List.zip_nil_right])
      | cons a as =>
        rw [List.zip_cons_cons, Entries.find?, List.lookup_cons, beq_eq_false_iff_ne.mpr hname]
        exact ih mem as

/-! ## Scopes and environments -/

theorem Registry.name_declaration {source : Registry} {key : TypeKey} {definition : TypeDef}
    (lookup : source.lookup key = some definition) :
    (source.declaration key).name = definition.name := by
  unfold Registry.declaration
  rw [lookup]
  cases definition <;> rfl

theorem Graph.Complete.mem_list {source : Registry} {g : Graph} (complete : g.Complete source)
    {key : TypeKey} (declared : key ∈ g.declarations.keys) : source.declaration key ∈ g.list :=
  List.mem_of_find?_eq_some (complete.declaration key declared)

theorem Graph.Complete.name_mem {source : Registry} {g : Graph} (complete : g.Complete source)
    {key : TypeKey} {definition : TypeDef} (declared : key ∈ g.declarations.keys)
    (lookup : source.lookup key = some definition) :
    definition.name ∈ g.list.map Declaration.name := by
  rw [← Registry.name_declaration lookup]
  exact List.mem_map_of_mem (complete.mem_list declared)

/-- An environment says of nodes what a scope says of type expressions. -/
structure Mirrors (source : Registry) (g : Graph) (params : List String) (s : Scope) (e : Env) :
    Prop where
  meaning : ∀ name ∈ params, e.params.find? name = some ((s.meaning name).node source)
  /-- No type parameter hides a declaration. -/
  fresh : ∀ d ∈ g.list, e.params.find? d.name = none
  this : e.this = s.this.map fun t => t.1.node source
  bound : ∀ name t, s.bindings.find? name = some t → Legible source g [] t.1
  thisLegible : ∀ t, s.this = some t → Legible source g [] t.1

namespace Mirrors

variable {source : Registry} {g : Graph} {params : List String} {s : Scope} {e : Env}
  {t : TypeExpr}

theorem empty : Mirrors source g [] .empty {} where
  meaning name h := by cases h
  fresh d _ := rfl
  this := rfl
  bound name t h := by cases h
  thisLegible t h := by cases h

/-- Closed type expressions have no use for type parameters. -/
theorem closed (h : Mirrors source g params s e) : Mirrors source g [] s ⟨[], e.this⟩ where
  meaning name h := by cases h
  fresh d _ := rfl
  this := h.this
  bound := h.bound
  thisLegible := h.thisLegible

theorem substituteOption_of_plainKey {key : Option TypeExpr} (plain : PlainKey key) :
    s.substituteOption key = key := by
  cases key with
  | none => rfl
  | some t =>
    have closed : t.isClosed = true := by
      rw [← TypeExpr.isClosed_unwrapped]
      rcases plain t rfl with h | h <;> rw [h] <;> rfl
    rw [Scope.substituteOption, s.substitute_of_closed t closed]

/-- What a legible type expression means is legible too. -/
theorem legible_substitute (h : Mirrors source g params s e) (legible : Legible source g params t) :
    Legible source g [] (s.substitute t) := by
  induction legible with
  | string => exact .string
  | number => exact .number
  | boolean => exact .boolean
  | any => exact .any
  | null => exact .null
  | never => exact .never
  | literal ne => exact .literal ne
  | self =>
    rw [Scope.substitute, Scope.selfMeaning]
    split
    · exact h.thisLegible _ ‹_›
    · exact .any
  | var _ =>
    rw [Scope.substitute, Scope.meaning]
    split
    · exact h.bound _ _ ‹_›
    · exact .any
  | named declared lookup _ ih =>
    rw [Scope.substitute, Scope.substituteAll_eq_map]
    refine .named declared lookup fun a ha => ?_
    obtain ⟨b, hb, rfl⟩ := List.mem_map.mp ha
    exact ih b hb
  | list _ ih =>
    rw [Scope.substitute, Scope.substituteOption_eq_map]
    refine .list fun u hu => ?_
    obtain ⟨b, hb, rfl⟩ := Option.map_eq_some_iff.mp hu
    exact ih b hb
  | map plain _ ih =>
    rw [Scope.substitute, substituteOption_of_plainKey plain, Scope.substituteOption_eq_map]
    refine .map plain fun u hu => ?_
    obtain ⟨b, hb, rfl⟩ := Option.map_eq_some_iff.mp hu
    exact ih b hb
  | tuple _ ih =>
    rw [Scope.substitute, Scope.substituteAll_eq_map]
    refine .tuple fun u hu => ?_
    obtain ⟨b, hb, rfl⟩ := List.mem_map.mp hu
    exact ih b hb
  | union ne _ ih =>
    rw [Scope.substitute, Scope.substituteAll_eq_map]
    refine .union (fun h => ne (List.map_eq_nil_iff.mp h)) fun u hu => ?_
    obtain ⟨b, hb, rfl⟩ := List.mem_map.mp hu
    exact ih b hb
  | variadic _ ih =>
    rw [Scope.substitute]
    exact .variadic ih
  | required _ ih =>
    rw [Scope.substitute]
    exact .required ih
  | notRequired _ ih =>
    rw [Scope.substitute]
    exact .notRequired ih
  | documented _ ih =>
    rw [Scope.substitute]
    exact .documented ih

/-- The nodes of literals have neither type parameters nor `this`. -/
theorem close_literalNode (choice : Literal) : e.close choice.node = choice.node := by
  cases choice <;> rfl

theorem close_mapKey {key : Option TypeExpr} (plain : PlainKey key) :
    e.close (TypeExpr.mapKey (TypeExpr.nodeOr source .string key)) =
      TypeExpr.mapKey (TypeExpr.nodeOr source .string key) := by
  cases key with
  | none => rfl
  | some t =>
    show e.close (TypeExpr.mapKey (t.node source)) = TypeExpr.mapKey (t.node source)
    rw [← TypeExpr.node_unwrapped]
    rcases plain t rfl with h | h <;> rw [h] <;> rfl

theorem nodeOr_substitute {o : Option TypeExpr}
    (each : ∀ t, o = some t → (s.substitute t).node source = e.close (t.node source)) :
    TypeExpr.nodeOr source .any (s.substituteOption o) =
      e.close (TypeExpr.nodeOr source .any o) := by
  cases o with
  | none => rfl
  | some t => exact each t rfl

/-- Closing the node of a type expression gives the node of what it means. -/
theorem node_substitute (h : Mirrors source g params s e) (complete : g.Complete source)
    (legible : Legible source g params t) :
    (s.substitute t).node source = e.close (t.node source) := by
  induction legible with
  | string => rfl
  | number => rfl
  | boolean => rfl
  | any => rfl
  | null => rfl
  | never => rfl
  | self =>
    rw [Scope.substitute, Scope.selfMeaning, TypeExpr.node, Env.close, h.this]
    cases s.this <;> rfl
  | var mem =>
    rw [Scope.substitute, TypeExpr.node, Env.close, h.meaning _ mem, Option.getD_some]
  | @named key args definition declared lookup _ ih =>
    rw [Scope.substitute, Scope.substituteAll_eq_map, TypeExpr.node, TypeExpr.node, lookup]
    show Node.reference definition.name _ = e.close (.reference definition.name _)
    rw [TypeExpr.nodes_eq_map, TypeExpr.nodes_eq_map]
    cases args with
    | nil =>
      -- without arguments the name could be that of a parameter
      have free : e.params.find? definition.name = none := by
        rw [← Registry.name_declaration lookup]
        exact h.fresh _ (complete.mem_list declared)
      show _ = e.close (.reference definition.name [])
      rw [Env.close, free, Option.getD_none]
      rfl
    | cons first others =>
      show _ = Node.reference definition.name (e.closeAll ((first :: others).map _))
      rw [Env.closeAll_eq_map, List.map_map, List.map_map]
      exact congrArg _ (List.map_congr_left ih)
  | @list element _ ih =>
    rw [Scope.substitute, TypeExpr.node, TypeExpr.node, Env.close]
    exact congrArg _ (nodeOr_substitute ih)
  | @map key value plain _ ih =>
    rw [Scope.substitute, substituteOption_of_plainKey plain, TypeExpr.node, TypeExpr.node,
      Env.close, Env.closeAll, Env.closeAll, close_mapKey plain, nodeOr_substitute ih]
  | tuple _ ih =>
    rw [Scope.substitute, Scope.substituteAll_eq_map, TypeExpr.node, TypeExpr.node, Env.close,
      Env.closeAll_eq_map, TypeExpr.nodes_eq_map, TypeExpr.nodes_eq_map, List.map_map, List.map_map]
    exact congrArg _ (List.map_congr_left ih)
  | @union members ne _ ih =>
    cases members with
    | nil => exact absurd rfl ne
    | cons first others =>
      show Node.union (TypeExpr.nodes source (s.substituteAll (first :: others))) =
        Node.union (e.closeAll (TypeExpr.nodes source (first :: others)))
      rw [Scope.substituteAll_eq_map, Env.closeAll_eq_map, TypeExpr.nodes_eq_map,
        TypeExpr.nodes_eq_map, List.map_map, List.map_map]
      exact congrArg _ (List.map_congr_left ih)
  | @literal choices ne =>
    cases choices with
    | nil => exact absurd rfl ne
    | cons first others =>
      show Node.union ((first :: others).map Literal.node) =
        Node.union (e.closeAll ((first :: others).map Literal.node))
      rw [Env.closeAll_eq_map, List.map_map]
      exact congrArg _ (List.map_congr_left fun choice _ => (close_literalNode choice).symm)
  | variadic _ ih =>
    rw [Scope.substitute, TypeExpr.node, TypeExpr.node, Env.close, ih]
  | required _ ih =>
    rw [Scope.substitute, TypeExpr.node, TypeExpr.node, ih]
  | notRequired _ ih =>
    rw [Scope.substitute, TypeExpr.node, TypeExpr.node, ih]
  | documented _ ih =>
    rw [Scope.substitute, TypeExpr.node, TypeExpr.node, ih]

/-! ## Entering definitions -/

variable {args : List TypeExpr} {params' : List String}

theorem closeAll_nodes (h : Mirrors source g params s e) (complete : g.Complete source)
    (legible : ∀ a ∈ args, Legible source g params a) :
    e.closeAll (args.map (TypeExpr.node source)) =
      (args.map s.close).map fun t => t.1.node source := by
  rw [Env.closeAll_eq_map, List.map_map, List.map_map]
  exact List.map_congr_left fun a ha => (h.node_substitute complete (legible a ha)).symm

/-- What stands for a parameter is the node of what it means. -/
theorem find?_bind (h : Mirrors source g params s e) (complete : g.Complete source)
    (legible : ∀ a ∈ args, Legible source g params a) (distinct : params'.Nodup) {name : String}
    (mem : name ∈ params') (this : Option ClosedType) :
    (Env.bind params' (e.closeAll (args.map (TypeExpr.node source)))).find? name =
      some (((⟨s.bind params' args, this⟩ : Scope).meaning name).node source) := by
  rw [h.closeAll_nodes complete legible, Env.find?_bind _ mem, Scope.meaning, Scope.bind,
    Entries.find?_ofList _ (Entries.nodup_keys_zip distinct _)]
  cases Entries.find? (params'.zip (args.map s.close)) name <;> rfl

theorem fresh_bind (fresh : ∀ d ∈ g.list, d.name ∉ params') (nodes : List Node) :
    ∀ d ∈ g.list, (Env.bind params' nodes).find? d.name = none := by
  intro d hd
  rw [Entries.find?_eq_none, Env.keys_bind]
  exact fresh d hd

theorem legible_bind (h : Mirrors source g params s e)
    (legible : ∀ a ∈ args, Legible source g params a) {name : String} {t : ClosedType}
    (found : (s.bind params' args).find? name = some t) : Legible source g [] t.1 := by
  have mem := (List.of_mem_zip (Entries.mem_of_find?_ofList found)).2
  obtain ⟨a, ha, rfl⟩ := List.mem_map.mp mem
  exact h.legible_substitute (legible a ha)

theorem enter (h : Mirrors source g params s e) (complete : g.Complete source)
    (legible : ∀ a ∈ args, Legible source g params a) (distinct : params'.Nodup)
    (fresh : ∀ d ∈ g.list, d.name ∉ params') :
    Mirrors source g params' (s.enter params' args)
      (e.enter params' (args.map (TypeExpr.node source))) where
  meaning _ mem := h.find?_bind complete legible distinct mem _
  fresh := fresh_bind fresh _
  this := h.this
  bound _ _ := h.legible_bind legible
  thisLegible := h.thisLegible

theorem enterRecord (h : Mirrors source g params s e) (complete : g.Complete source) {key : TypeKey}
    {definition : TypeDef} (declared : key ∈ g.declarations.keys)
    (lookup : source.lookup key = some definition)
    (legible : ∀ a ∈ args, Legible source g params a) (distinct : params'.Nodup)
    (fresh : ∀ d ∈ g.list, d.name ∉ params') :
    Mirrors source g params' (s.enterRecord key params' args)
      (e.enterInterface definition.name params' (args.map (TypeExpr.node source))) where
  meaning _ mem := h.find?_bind complete legible distinct mem _
  fresh := fresh_bind fresh _
  this := by
    have node : (TypeExpr.named key args).node source =
        .reference definition.name (args.map (TypeExpr.node source)) := by
      rw [TypeExpr.node, lookup, TypeExpr.nodes_eq_map]
    show some (e.close _) = some ((s.substitute (.named key args)).node source)
    rw [h.node_substitute complete (.named declared lookup legible), node]
  bound _ _ := h.legible_bind legible
  thisLegible t ht := by
    cases ht
    exact h.legible_substitute (.named declared lookup legible)

end Mirrors

end SchemaDialogue
