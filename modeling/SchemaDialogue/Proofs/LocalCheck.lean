import SchemaDialogue.Conform.Validate
import SchemaDialogue.Proofs.Confinement
import SchemaDialogue.Proofs.Conformance
import SchemaDialogue.Proofs.Locality

/-!
# Checks that stay within a set of keys

A check looks up keys that the checked type mentions, keys that stand in the scope, and keys that
the definitions of these mention. So two registries that agree on a closed set of keys find the
same:

* **scopes**: what a scope binds stays within the set as definitions are entered
  (`Scope.Within.enter`, `Agree.within_field`);
* **attempts**: the choices, kinds and records that narrow down a union are the same
  (`Agree.literalChoices_eq`, `Agree.kindMatches_eq`, `Agree.discriminates_eq`);
* **check**: so are the findings (`Agree.check_eq`);
* **result**: a schema is what is reached from its root (`Schema.alike_of_reached`).
-/

namespace SchemaDialogue

open TypeExpr

variable {K : TypeKey → Prop}

theorem mapM_congr {α β : Type} {f g : α → Option β} {l : List α} (h : ∀ a ∈ l, f a = g a) :
    l.mapM f = l.mapM g := by
  induction l with
  | nil => rfl
  | cons a rest ih =>
    rw [List.mapM_cons, List.mapM_cons, h a (.head _), ih fun b mem => h b (.tail _ mem)]

/-- All keys that the types bound in a scope mention are of the set. -/
structure Scope.Within (K : TypeKey → Prop) (s : Scope) : Prop where
  bindings : ∀ name bound, s.bindings.find? name = some bound → bound.1.Within K
  this : ∀ this, s.this = some this → this.1.Within K

namespace Scope

variable {s : Scope} {t : TypeExpr} {params : List String} {args : List TypeExpr}

theorem within_empty : empty.Within K where
  bindings _ _ h := by cases h
  this _ h := by cases h

theorem Within.substitute (h : s.Within K) (within : t.Within K) : (s.substitute t).Within K := by
  intro key mem
  obtain ⟨args, part⟩ := mem_mentions.mp mem
  rcases named_of_part_substitute part with
    ⟨args', written⟩ | ⟨name, bound, found, part⟩ | ⟨this, some, part⟩
  · exact within key (mem_mentions.mpr ⟨args', written⟩)
  · exact h.bindings name bound found key (mem_mentions.mpr ⟨args, part⟩)
  · exact h.this this some key (mem_mentions.mpr ⟨args, part⟩)

theorem Within.bind (h : s.Within K) (args_within : ∀ a ∈ args, a.Within K) {name : String}
    {bound : ClosedType} (found : (s.bind params args).find? name = some bound) :
    bound.1.Within K := by
  have mem := (List.of_mem_zip (Entries.mem_of_find?_ofList found)).2
  obtain ⟨a, ha, rfl⟩ := List.mem_map.mp mem
  exact h.substitute (args_within a ha)

theorem Within.enter (h : s.Within K) (args_within : ∀ a ∈ args, a.Within K) :
    (s.enter params args).Within K where
  bindings _ _ found := h.bind args_within found
  this := h.this

theorem Within.enterRecord (h : s.Within K) {key : TypeKey} (known : K key)
    (args_within : ∀ a ∈ args, a.Within K) : (s.enterRecord key params args).Within K where
  bindings _ _ found := h.bind args_within found
  this this some := by
    cases some
    exact h.substitute (within_named.mpr ⟨known, args_within⟩)

end Scope

namespace Registry.Agree

variable {source other : Registry} {t : TypeExpr} {key : TypeKey} {scope : Scope} {left : Nat}

/-! ## Shapes -/

/-- A check does not leave a closed set. -/
theorem confines (agree : source.Agree other K) : source.Confines (TypeExpr.Within K) where
  part within part key mem := by
    obtain ⟨args, named⟩ := mem_mentions.mp mem
    exact within key (mem_mentions.mpr ⟨args, named.trans part⟩)
  substitute inside within := Scope.Within.substitute ⟨inside.bindings, inside.this⟩ within
  definition within lookup := agree.closed _ _ (within_named.mp within).1 lookup

section

variable {r : RecordDef}

theorem shape_eq (agree : source.Agree other K)
    (types : ∀ t ∈ (TypeDef.record r).types, t.Within K) :
    source.shape scope r = other.shape scope r := by
  unfold shape lineage
  rw [agree.ancestry_eq fun b mem => types b (TypeDef.base_mem_types mem)]

/-- The fields of a shape, and the scopes that they are seen from, stay within the set. -/
theorem within_field (agree : source.Agree other K) (within : scope.Within K)
    (types : ∀ t ∈ (TypeDef.record r).types, t.Within K) {f : ShapeField Scope}
    (mem : f ∈ (source.shape scope r).fields) : f.type.Within K ∧ f.scope.Within K := by
  obtain ⟨type, inside⟩ := agree.confines.field ⟨within.bindings, within.this⟩ types mem
  exact ⟨type, inside.bindings, inside.this⟩

theorem within_extra (agree : source.Agree other K) (within : scope.Within K)
    (types : ∀ t ∈ (TypeDef.record r).types, t.Within K) {extra : TypeExpr} {inner : Scope}
    (some : (source.shape scope r).extra = some (extra, inner)) :
    extra.Within K ∧ inner.Within K := by
  obtain ⟨type, inside⟩ := agree.confines.extra ⟨within.bindings, within.this⟩ types some
  exact ⟨type, inside.bindings, inside.this⟩

end

/-! ## What narrows down a union -/

theorem literalChoices_eq (agree : source.Agree other K) {members : List TypeExpr}
    (within : scope.Within K) (members_within : ∀ m ∈ members, m.Within K) :
    source.literalChoices left scope members = other.literalChoices left scope members := by
  induction left generalizing scope members with
  | zero => rfl
  | succ left ih =>
    rw [literalChoices, literalChoices]
    refine congrArg (· >>= _) (mapM_congr fun m mem => ?_)
    have inside := (members_within m mem).unwrapped
    split
    · rfl
    · rfl
    · rename_i inner union
      rw [union] at inside
      exact ih within (within_union.mp inside)
    · rename_i key args named
      rw [named] at inside
      obtain ⟨known, args_within⟩ := within_named.mp inside
      rw [← agree.lookup key known]
      split
      · rename_i a lookup
        have target := agree.closed key _ known lookup a.target (.head _)
        exact ih (within.enter args_within) (List.forall_mem_singleton.mpr target)
      · rfl
    · rfl

theorem kindMatches_eq (agree : source.Agree other K) {value : Json} (within : scope.Within K)
    (type : t.Within K) :
    source.kindMatches left scope t value = other.kindMatches left scope t value := by
  induction left generalizing scope t with
  | zero => rfl
  | succ left ih =>
    have inside := type.unwrapped
    rw [kindMatches, kindMatches]
    generalize t.unwrapped = u at inside
    cases u with
    | self =>
      dsimp only
      cases this : scope.this with
      | none => rfl
      | some bound => exact ih within (within.this bound this)
    | var name =>
      dsimp only
      cases found : scope.bindings.find? name with
      | none => rfl
      | some bound => exact ih within (within.bindings name bound found)
    | named key args =>
      obtain ⟨known, args_within⟩ := within_named.mp inside
      dsimp only
      rw [← agree.lookup key known]
      cases lookup : source.lookup key with
      | none => rfl
      | some d =>
        cases d with
        | aliased a =>
          have target := agree.closed key _ known lookup a.target (.head _)
          exact ih (within.enter args_within) target
        | _ => rfl
    | union members =>
      have members_within := within_union.mp inside
      dsimp only
      rw [Bool.eq_iff_iff, List.any_eq_true, List.any_eq_true]
      refine exists_congr fun m => and_congr_right fun mem => ?_
      rw [ih within (members_within m mem)]
    | _ => rfl

theorem resolveRecord_eq (agree : source.Agree other K) (within : scope.Within K)
    (type : t.Within K) :
    source.resolveRecord left scope t = other.resolveRecord left scope t := by
  induction left generalizing scope t with
  | zero => rfl
  | succ left ih =>
    have inside := type.unwrapped
    rw [resolveRecord, resolveRecord]
    generalize t.unwrapped = u at inside
    cases u with
    | self => exact Option.bind_congr fun bound this => ih within (within.this bound this)
    | var name =>
      exact Option.bind_congr fun bound found => ih within (within.bindings name bound found)
    | named key args =>
      obtain ⟨known, args_within⟩ := within_named.mp inside
      dsimp only
      rw [← agree.lookup key known]
      cases lookup : source.lookup key with
      | none => rfl
      | some d =>
        cases d with
        | aliased a =>
          have target := agree.closed key _ known lookup a.target (.head _)
          exact ih (within.enter args_within) target
        | _ => rfl
    | _ => rfl

/-- The record that a type stands for stays within the set. -/
theorem types_of_resolveRecord (agree : source.Agree other K) (within : scope.Within K)
    (type : t.Within K) {r : RecordDef} {inner : Scope}
    (resolved : source.resolveRecord left scope t = some (r, inner)) :
    ∀ t ∈ (TypeDef.record r).types, t.Within K := by
  induction left generalizing scope t with
  | zero => cases resolved
  | succ left ih =>
    have inside := type.unwrapped
    rw [resolveRecord] at resolved
    generalize t.unwrapped = u at inside resolved
    cases u with
    | self =>
      obtain ⟨bound, this, resolved⟩ := Option.bind_eq_some_iff.mp resolved
      exact ih within (within.this bound this) resolved
    | var name =>
      obtain ⟨bound, found, resolved⟩ := Option.bind_eq_some_iff.mp resolved
      exact ih within (within.bindings name bound found) resolved
    | named key args =>
      obtain ⟨known, args_within⟩ := within_named.mp inside
      dsimp only at resolved
      cases lookup : source.lookup key with
      | none =>
        rw [lookup] at resolved
        cases resolved
      | some d =>
        rw [lookup] at resolved
        have types := agree.closed key d known lookup
        cases d with
        | aliased a => exact ih (within.enter args_within) (types a.target (.head _)) resolved
        | record r' =>
          cases resolved
          exact types
        | opaqueType name => cases resolved
    | _ => cases resolved

theorem discriminates_eq (agree : source.Agree other K) {value : Json} (within : scope.Within K)
    (type : t.Within K) :
    source.discriminates left scope t value = other.discriminates left scope t value := by
  unfold discriminates
  rw [← agree.resolveRecord_eq within type]
  cases resolved : source.resolveRecord left scope t with
  | none => cases value <;> rfl
  | some p =>
    have types := agree.types_of_resolveRecord within type resolved
    cases value with
    | object members =>
      dsimp only
      rw [agree.shape_eq types]
    | _ => rfl

/-- What is said about a union that no member accepts. -/
theorem settleUnion_eq (agree : source.Agree other K) {members : List TypeExpr} {value : Json}
    (within : scope.Within K) (members_within : ∀ m ∈ members, m.Within K)
    {attempts : List (TypeExpr × List Finding)} (attempted : ∀ p ∈ attempts, p.1 ∈ members) :
    source.settleUnion left scope members attempts value =
      other.settleUnion left scope members attempts value := by
  have type : ∀ p ∈ attempts, p.1.Within K := fun p mem => members_within p.1 (attempted p mem)
  have ofKind : attempts.filter (fun p => source.kindMatches left scope p.1 value) =
      attempts.filter fun p => other.kindMatches left scope p.1 value :=
    List.filter_congr fun p mem => agree.kindMatches_eq within (type p mem)
  have meant : ∀ l : List (TypeExpr × List Finding), (∀ p ∈ l, p ∈ attempts) →
      l.filter (fun p => source.discriminates left scope p.1 value) =
        l.filter fun p => other.discriminates left scope p.1 value :=
    fun l kept => List.filter_congr fun p mem =>
      agree.discriminates_eq within (type p (kept p mem))
  unfold settleUnion
  dsimp only
  rw [agree.literalChoices_eq within members_within, ofKind, ← ofKind,
    meant _ fun p mem => (List.mem_filter.mp mem).1]

/-! ## The check -/

section

variable {value : Json}

-- what the check follows: the same is found about smaller values
variable (smaller : ∀ (scope : Scope) (left : Nat) (t : TypeExpr) (part : Json),
  part.size < value.size → scope.Within K → t.Within K →
    source.check scope left t part = other.check scope left t part)

include smaller

theorem check_record_eq (agree : source.Agree other K) {r : RecordDef} {args : List TypeExpr}
    (known : K key) (lookup : source.lookup key = some (.record r)) (within : scope.Within K)
    (args_within : ∀ a ∈ args, a.Within K) :
    source.check scope (left + 1) (.named key args) value =
      other.check scope (left + 1) (.named key args) value := by
  have types := agree.closed key _ known lookup
  have lookup' : other.lookup key = some (.record r) := agree.lookup key known ▸ lookup
  have inside : (scope.enterRecord key r.typeParams args).Within K :=
    within.enterRecord known args_within
  cases value with
  | object members =>
    rw [check_record_object lookup, check_record_object lookup', ← agree.shape_eq types]
    refine congrArg₂ _ (List.flatMap_congr ?fields) (List.flatMap_congr ?further)
    case fields =>
      intro f mem
      obtain ⟨field_within, scope_within⟩ := agree.within_field inside types mem
      unfold fieldFindings
      split
      · rename_i item found
        rw [smaller _ _ _ item (Json.size_lt_of_find? found) scope_within field_within]
      · rfl
    case further =>
      rintro ⟨name, item⟩ mem
      unfold memberFindings
      split
      · rfl
      · cases extra : (source.shape (scope.enterRecord key r.typeParams args) r).extra with
        | none => rfl
        | some q =>
          obtain ⟨extra_within, scope_within⟩ := agree.within_extra inside types extra
          dsimp only
          rw [smaller _ _ _ item (Json.size_lt_of_mem_object mem) scope_within extra_within]
  | _ => rw [check_record_of_ne lookup (by simp), check_record_of_ne lookup' (by simp)]

theorem check_list_eq {element : TypeExpr} (within : scope.Within K)
    (element_within : element.Within K) :
    source.check scope left (.list (some element)) value =
      other.check scope left (.list (some element)) value := by
  cases value with
  | array items =>
    rw [check_list_array, check_list_array]
    refine List.flatMap_congr fun p mem => ?_
    have small := Json.size_lt_of_mem_array (List.fst_mem_of_mem_zipIdx mem)
    rw [smaller _ _ _ p.1 small within element_within]
  | _ => rw [check_list_of_ne (by simp), check_list_of_ne (by simp)]

theorem check_tuple_eq {elements : List TypeExpr} (within : scope.Within K)
    (elements_within : ∀ t ∈ elements, t.Within K) :
    source.check scope left (.tuple elements) value =
      other.check scope left (.tuple elements) value := by
  cases value with
  | array items =>
    rw [check_tuple_array, check_tuple_array]
    refine congrArg _ (List.flatMap_congr fun p mem => ?_)
    have paired := List.of_mem_zip (List.fst_mem_of_mem_zipIdx mem)
    have small := Json.size_lt_of_mem_array paired.2
    rw [smaller _ _ _ p.1.2 small within (elements_within p.1.1 paired.1)]
  | _ => rw [check_tuple_of_ne (by simp), check_tuple_of_ne (by simp)]

theorem check_map_eq {key element : Option TypeExpr} (within : scope.Within K)
    (key_within : ∀ t, key = some t → t.Within K)
    (element_within : ∀ t, element = some t → t.Within K) :
    source.check scope left (.map key element) value =
      other.check scope left (.map key element) value := by
  cases value with
  | object members =>
    rw [check_map_object, check_map_object]
    refine List.flatMap_congr ?_
    rintro ⟨name, item⟩ mem
    have smallKey := Json.key_size_lt_of_mem_object mem
    have smallItem := Json.size_lt_of_mem_object mem
    refine congrArg _ (congrArg₂ _ (congrArg _ ?name) ?item)
    case name =>
      cases narrow : keyType? key with
      | none => rfl
      | some u =>
        -- names are checked against what the key type wraps, which mentions the same keys
        obtain ⟨t, some, unwrapped⟩ := unwrapped_of_keyType? narrow
        exact smaller _ _ u _ smallKey within (unwrapped ▸ (key_within t some).unwrapped)
    case item =>
      cases element with
      | none => rfl
      | some u => exact smaller _ _ u item smallItem within (element_within u rfl)
  | _ => rw [check_map_of_ne (by simp), check_map_of_ne (by simp)]

end

/-- Checks find the same, as long as the type and the scope stay within the set. -/
theorem check_eq (agree : source.Agree other K) (scope : Scope) (left : Nat) (t : TypeExpr)
    (value : Json) : scope.Within K → t.Within K →
      source.check scope left t value = other.check scope left t value := by
  induction scope, left, t, value using check_induction with
  | step scope left t value smaller fewer closed component =>
  intro within type
  cases t with
  | required inner =>
    rw [check_required, check_required]
    exact component left inner (Nat.le_refl _) .required within type
  | notRequired inner =>
    rw [check_notRequired, check_notRequired]
    exact component left inner (Nat.le_refl _) .notRequired within type
  | documented doc inner =>
    rw [check_documented, check_documented]
    exact component left inner (Nat.le_refl _) .documented within type
  | self =>
    cases this : scope.this with
    | none => rw [check_self_of_none this, check_self_of_none this]
    | some bound =>
      rw [check_self_of_some this, check_self_of_some this]
      exact closed _ bound (Nat.sub_le _ _) rfl within (within.this bound this)
  | var name =>
    cases found : scope.bindings.find? name with
    | none => rw [check_var_of_none found, check_var_of_none found]
    | some bound =>
      rw [check_var_of_some found, check_var_of_some found]
      exact closed _ bound (Nat.sub_le _ _) rfl within (within.bindings name bound found)
  | union members =>
    have members_within := within_union.mp type
    have attempts : (attemptAll members fun m _ => source.check scope (left - 1) m value) =
        attemptAll members fun m _ => other.check scope (left - 1) m value := by
      rw [attemptAll_eq_mapM, attemptAll_eq_mapM]
      refine mapM_congr fun m mem => ?_
      rw [component _ m (Nat.sub_le _ _) (.union mem) within (members_within m mem)]
    rw [check, check, attempts]
    split
    · rename_i settled
      obtain ⟨rfl, _⟩ := attemptAll_eq_some settled
      refine agree.settleUnion_eq within members_within fun p mem => ?_
      obtain ⟨m, hm, rfl⟩ := List.mem_map.mp mem
      exact hm
    · rfl
  | named key args =>
    obtain ⟨known, args_within⟩ := within_named.mp type
    cases left with
    | zero => rw [check, check]
    | succ left =>
      cases lookup : source.lookup key with
      | none =>
        rw [check_undescribed lookup, check_undescribed (agree.lookup key known ▸ lookup)]
      | some d =>
        have types := agree.closed key d known lookup
        have lookup' : other.lookup key = some d := agree.lookup key known ▸ lookup
        cases d with
        | opaqueType name => rw [check, check, lookup, lookup']
        | aliased a =>
          rw [check_aliased lookup, check_aliased lookup']
          exact fewer _ _ _ (Nat.lt_succ_self _) (within.enter args_within)
            (types a.target (.head _))
        | record r => exact agree.check_record_eq smaller known lookup within args_within
  | list element =>
    cases element with
    | none => rw [check, check]
    | some element => exact check_list_eq smaller within (within_list.mp type element rfl)
  | variadic element =>
    rw [check_variadic_eq_list, check_variadic_eq_list]
    exact check_list_eq smaller within (within_variadic.mp type)
  | tuple elements => exact check_tuple_eq smaller within (within_tuple.mp type)
  | map key element =>
    obtain ⟨key_within, element_within⟩ := within_map.mp type
    exact check_map_eq smaller within key_within element_within
  | _ => rw [check, check]

end Registry.Agree

/-! ## Schemas -/

/-- Two schemas say the same: what is shown of them, and what is found about each value. -/
structure Schema.Alike (s s' : Schema) : Prop where
  graph : s.graph = s'.graph
  text : s.text = s'.text
  typeName : s.typeName = s'.typeName
  errors : s.errors = s'.errors
  findings : ∀ value, s.findings value = s'.findings value

/-- The keys that are reached from a root are a closed set. -/
theorem Registry.agree_reaches {source other : Registry} {root : TypeKey}
    (same : ∀ key, source.Reaches root key → source.lookup key = other.lookup key) :
    source.Agree other (source.Reaches root) where
  lookup := same
  closed key d reached lookup t type key' mem := by
    obtain ⟨args, part⟩ := TypeExpr.mem_mentions.mp mem
    exact reached.tail ⟨d, lookup, t, type, args, part⟩

theorem Registry.Agree.alike {source other : Registry} {root : TypeKey}
    (agree : source.Agree other K) (known : K root) :
    Schema.Alike ⟨source, root⟩ ⟨other, root⟩ where
  graph := agree.build_eq known
  text := congrArg Graph.render (agree.build_eq known)
  typeName := by
    unfold Schema.typeName
    rw [agree.lookup root known]
  errors := congrArg (fun g => g.errors.map GraphError.message) (agree.build_eq known)
  findings value := agree.check_eq .empty expansionLimit (.reference root) value
    Scope.within_empty (within_named.mpr ⟨known, fun a mem => by cases mem⟩)

/-- A schema is what is reached from its root. Two registries that agree on the root and on all that
definitions reached from it mention make schemas that say the same. So a definition that is not
reached may be added, replaced or taken out. -/
theorem Schema.alike_of_reached (source other : Registry) (root : TypeKey)
    (same : ∀ key, source.Reaches root key → source.lookup key = other.lookup key) :
    Alike ⟨source, root⟩ ⟨other, root⟩ ∧
      ∀ key, ¬source.Reaches root key →
        (∀ d, Alike ⟨source, root⟩ ⟨source.define key d, root⟩) ∧
        Alike ⟨source, root⟩ ⟨{ source with types := source.types.filter (·.1 ≠ key) }, root⟩ := by
  refine ⟨(Registry.agree_reaches same).alike .refl, fun key unreached => ⟨fun d => ?_, ?_⟩⟩
  · refine (Registry.agree_reaches fun k reached => ?_).alike .refl
    have other : k ≠ key := fun equal => unreached (equal ▸ reached)
    show _ = (source.types.insert key d).find? k
    rw [Entries.find?_insert, if_neg other]
    rfl
  · refine (Registry.agree_reaches fun k reached => ?_).alike .refl
    have other : k ≠ key := fun equal => unreached (equal ▸ reached)
    exact (Entries.find?_filter other).symm

theorem Registry.reaches_links {key : TypeKey} (reached : links.Reaches "Link" key) :
    key = "Link" := by
  induction reached with
  | refl => rfl
  | tail _ refers ih =>
    obtain ⟨d, lookup, t, type, args, part⟩ := refers
    subst ih
    cases lookup
    cases List.mem_singleton.mp type
    cases part

/-- A page that no link mentions makes no difference to links. -/
theorem Schema.alike_links :
    Alike ⟨Registry.links, "Link"⟩
      ⟨Registry.links.define "Page" (.opaqueType "Page"), "Link"⟩ := by
  refine (alike_of_reached Registry.links _ "Link" fun key reached => ?_).1
  rw [Registry.reaches_links reached]
  rfl

end SchemaDialogue
