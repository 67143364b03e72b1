import SchemaDialogue.Proofs.Parts
import SchemaDialogue.Proofs.Verdict
import Mathlib.Data.ENat.Basic

/-!
# Conformance

What it means for a value to conform to a type, without reference to the check: `Conforms` has one
rule for each way to conform, and is the least relation that the rules allow. So a type that only
stands for itself has no values, whatever the check does about it.

The check decides conformance (`findings_decides_conformance`):

* **soundness**: a value without findings conforms;
* **completeness**: a value with a derivation in which fewer than `expansionLimit` expansions follow
  each other before the data is descended into has no findings.
-/

namespace SchemaDialogue

/-- Conformance of a value to a type. `used` counts the expansions since the data was last descended
into; each of them has to stay below the limit, which is `⊤` when expansions do not matter. -/
inductive Conforms (source : Registry) (limit : ℕ∞) : Nat → Scope → TypeExpr → Json → Prop
  | any {used scope value} : Conforms source limit used scope .any value
  | string {used scope s} : Conforms source limit used scope .string (.string s)
  | number {used scope n} : Conforms source limit used scope .number (.number n)
  | integer {used scope n} : n.isInteger = true →
      Conforms source limit used scope .integer (.number n)
  | boolean {used scope b} : Conforms source limit used scope .boolean (.bool b)
  | null {used scope} : Conforms source limit used scope .null .null
  | literal {used scope choices choice value} : choice ∈ choices → choice.admits value = true →
      Conforms source limit used scope (.literal choices) value
  | required {used scope inner value} : Conforms source limit used scope inner value →
      Conforms source limit used scope (.required inner) value
  | notRequired {used scope inner value} : Conforms source limit used scope inner value →
      Conforms source limit used scope (.notRequired inner) value
  | documented {used scope doc inner value} : Conforms source limit used scope inner value →
      Conforms source limit used scope (.documented doc inner) value
  | selfFree {used scope value} : scope.this = none →
      Conforms source limit used scope .self value
  | self {used scope this value} : scope.this = some this → (used + 1 : Nat) < limit →
      Conforms source limit (used + 1) scope this.1 value →
      Conforms source limit used scope .self value
  | varFree {used scope name value} : scope.bindings.find? name = none →
      Conforms source limit used scope (.var name) value
  | var {used scope name bound value} : scope.bindings.find? name = some bound →
      (used + 1 : Nat) < limit →
      Conforms source limit (used + 1) scope bound.1 value →
      Conforms source limit used scope (.var name) value
  | union {used scope members m value} : m ∈ members → (used + 1 : Nat) < limit →
      Conforms source limit (used + 1) scope m value →
      Conforms source limit used scope (.union members) value
  | undescribed {used scope key args value} : source.lookup key = none →
      Conforms source limit used scope (.named key args) value
  | opaqueType {used scope key args name members} : source.lookup key = some (.opaqueType name) →
      Conforms source limit used scope (.named key args) (.object members)
  | aliased {used scope key args a value} : source.lookup key = some (.aliased a) →
      (used + 1 : Nat) < limit →
      Conforms source limit (used + 1) (scope.enter a.typeParams args) a.target value →
      Conforms source limit used scope (.named key args) value
  | record {used scope key args r members} : source.lookup key = some (.record r) →
      -- the fields that are there
      (∀ name f inner item,
        source.fieldOf (scope.enterRecord key r.typeParams args) r name = some (f, inner) →
        Entries.find? members name = some item → Conforms source limit 0 inner f.type item) →
      -- the fields that are missing
      (∀ name f inner,
        source.fieldOf (scope.enterRecord key r.typeParams args) r name = some (f, inner) →
        Entries.find? members name = none → f.isOptional = true) →
      -- the members that are no field
      (∀ name item, (name, item) ∈ members →
        source.fieldOf (scope.enterRecord key r.typeParams args) r name = none →
        source.extraOf (scope.enterRecord key r.typeParams args) r ≠ none) →
      (∀ name item extra inner, (name, item) ∈ members →
        source.fieldOf (scope.enterRecord key r.typeParams args) r name = none →
        source.extraOf (scope.enterRecord key r.typeParams args) r = some (extra, inner) →
        Conforms source limit 0 inner extra item) →
      Conforms source limit used scope (.named key args) (.object members)
  | listAny {used scope items} : Conforms source limit used scope (.list none) (.array items)
  | list {used scope element items} :
      (∀ item ∈ items, Conforms source limit 0 scope element item) →
      Conforms source limit used scope (.list (some element)) (.array items)
  | variadic {used scope element items} :
      (∀ item ∈ items, Conforms source limit 0 scope element item) →
      Conforms source limit used scope (.variadic element) (.array items)
  | tuple {used scope elements items} :
      items.length = elements.length →
      (∀ p ∈ elements.zip items, Conforms source limit 0 scope p.1 p.2) →
      Conforms source limit used scope (.tuple elements) (.array items)
  | map {used scope key element members} :
      (∀ name item, (name, item) ∈ members → keyKindFindings key name = []) →
      (∀ name item narrow, (name, item) ∈ members → keyType? key = some narrow →
        Conforms source limit 0 scope narrow (.string name)) →
      (∀ name item t, (name, item) ∈ members → element = some t →
        Conforms source limit 0 scope t item) →
      Conforms source limit used scope (.map key element) (.object members)

namespace Conforms

variable {source : Registry} {limit : ℕ∞} {scope : Scope} {t : TypeExpr} {value : Json}

/-! ## Counting expansions -/

/-- A conforming value conforms under another limit that is not lower, if the expansions that were
allowed are still allowed when they are counted from `used'` on. -/
theorem recount {limit' : ℕ∞} {used used' : Nat} (h : Conforms source limit used scope t value)
    (le : limit ≤ limit')
    (allowed : ∀ k, ((used + k : Nat) : ℕ∞) < limit → ((used' + k : Nat) : ℕ∞) < limit') :
    Conforms source limit' used' scope t value := by
  -- after a descent the count starts again
  have fresh : ∀ k, ((0 + k : Nat) : ℕ∞) < limit → ((0 + k : Nat) : ℕ∞) < limit' :=
    fun k lt => lt_of_lt_of_le lt le
  have next : ∀ {used used' : Nat},
      (∀ k, ((used + k : Nat) : ℕ∞) < limit → ((used' + k : Nat) : ℕ∞) < limit') →
      ∀ k, ((used + 1 + k : Nat) : ℕ∞) < limit → ((used' + 1 + k : Nat) : ℕ∞) < limit' := by
    intro used used' allowed k
    rw [Nat.add_right_comm used, Nat.add_right_comm used']
    exact allowed (k + 1)
  induction h generalizing used' with
  | any => exact .any
  | string => exact .string
  | number => exact .number
  | integer h => exact .integer h
  | boolean => exact .boolean
  | null => exact .null
  | literal mem admits => exact .literal mem admits
  | required _ ih => exact .required (ih allowed)
  | notRequired _ ih => exact .notRequired (ih allowed)
  | documented _ ih => exact .documented (ih allowed)
  | selfFree h => exact .selfFree h
  | self h lt _ ih => exact .self h (allowed 1 lt) (ih (next allowed))
  | varFree h => exact .varFree h
  | var h lt _ ih => exact .var h (allowed 1 lt) (ih (next allowed))
  | union mem lt _ ih => exact .union mem (allowed 1 lt) (ih (next allowed))
  | undescribed h => exact .undescribed h
  | opaqueType h => exact .opaqueType h
  | aliased h lt _ ih => exact .aliased h (allowed 1 lt) (ih (next allowed))
  | record h _ missing further _ present extra =>
    refine .record h ?_ missing further ?_
    · intro name f inner item hfield hitem
      exact present name f inner item hfield hitem fresh
    · intro name item t inner hmem hfield hextra
      exact extra name item t inner hmem hfield hextra fresh
  | listAny => exact .listAny
  | list _ ih => exact .list fun item hitem => ih item hitem fresh
  | variadic _ ih => exact .variadic fun item hitem => ih item hitem fresh
  | tuple length _ ih => exact .tuple length fun p hp => ih p hp fresh
  | map kinds _ _ keys items =>
    refine .map kinds ?_ ?_
    · intro name item narrow hmem hkey
      exact keys name item narrow hmem hkey fresh
    · intro name item t hmem helement
      exact items name item t hmem helement fresh

/-- A value conforms all the more when fewer expansions have been used. -/
theorem mono {used used' : Nat} (h : Conforms source limit used scope t value)
    (le : used' ≤ used) : Conforms source limit used' scope t value :=
  h.recount le_rfl fun _ lt =>
    lt_of_le_of_lt (Nat.cast_le.mpr (Nat.add_le_add_right le _)) lt

/-- Without a limit it does not matter how many expansions have been used. -/
theorem unlimited {used used' : Nat} (h : Conforms source limit used scope t value) :
    Conforms source ⊤ used' scope t value :=
  h.recount le_top fun _ _ => ENat.natCast_lt_top _

/-- Wrappers do not matter. -/
theorem unwrapped_iff {used : Nat} :
    Conforms source limit used scope t.unwrapped value ↔
      Conforms source limit used scope t value := by
  induction t using TypeExpr.induction with
  | required inner ih =>
    refine ih.trans ⟨.required, fun h => ?_⟩
    cases h
    assumption
  | notRequired inner ih =>
    refine ih.trans ⟨.notRequired, fun h => ?_⟩
    cases h
    assumption
  | documented doc inner ih =>
    refine ih.trans ⟨.documented, fun h => ?_⟩
    cases h
    assumption
  | _ => exact Iff.rfl

end Conforms

namespace Registry

variable {source : Registry}

/-! ## Soundness -/

/-- What has no findings conforms, whatever expansions are left. -/
theorem conforms_of_check_eq_nil (scope : Scope) (left : Nat) (t : TypeExpr) (value : Json) :
    source.check scope left t value = [] → ∀ used, Conforms source ⊤ used scope t value := by
  refine check_induction (motive := fun scope left t value =>
    source.check scope left t value = [] → ∀ used, Conforms source ⊤ used scope t value) ?_
    scope left t value
  intro scope left t value smaller fewer closed part hnil used
  have lt : ((used + 1 : Nat) : ℕ∞) < ⊤ := ENat.natCast_lt_top _
  cases t with
  | string =>
    have := check_string_eq_nil.mp hnil
    cases value <;> first | exact .string | cases this
  | number =>
    have := check_number_eq_nil.mp hnil
    cases value <;> first | exact .number | cases this
  | integer =>
    have := check_integer_eq_nil.mp hnil
    cases value <;> first | exact .integer this | cases this
  | boolean =>
    have := check_boolean_eq_nil.mp hnil
    cases value <;> first | exact .boolean | cases this
  | any => exact .any
  | null =>
    rw [check_null_eq_nil.mp hnil]
    exact .null
  | never => exact absurd hnil check_never_ne_nil
  | literal choices =>
    obtain ⟨choice, mem, admits⟩ := check_literal_eq_nil.mp hnil
    exact .literal mem admits
  | required inner =>
    rw [check_required] at hnil
    exact .required (part left inner le_rfl .required hnil used)
  | notRequired inner =>
    rw [check_notRequired] at hnil
    exact .notRequired (part left inner le_rfl .notRequired hnil used)
  | documented doc inner =>
    rw [check_documented] at hnil
    exact .documented (part left inner le_rfl .documented hnil used)
  | self =>
    cases h : scope.this with
    | none => exact .selfFree h
    | some this =>
      rw [check_self_of_some h] at hnil
      exact .self h lt (closed _ this (Nat.sub_le _ _) rfl hnil _)
  | var name =>
    cases h : scope.bindings.find? name with
    | none => exact .varFree h
    | some bound =>
      rw [check_var_of_some h] at hnil
      exact .var h lt (closed _ bound (Nat.sub_le _ _) rfl hnil _)
  | union members =>
    obtain ⟨m, mem, hm⟩ := check_union_eq_nil.mp hnil
    exact .union mem lt (part _ m (Nat.sub_le _ _) (.union mem) hm _)
  | named key args =>
    cases left with
    | zero => exact absurd hnil check_named_zero
    | succ left =>
      cases h : source.lookup key with
      | none => exact .undescribed h
      | some definition =>
        cases definition with
        | opaqueType name =>
          have := (check_opaque_eq_nil h).mp hnil
          cases value <;> first | exact .opaqueType h | cases this
        | aliased a =>
          rw [check_aliased h] at hnil
          exact .aliased h lt (fewer _ left _ (Nat.lt_succ_self _) hnil _)
        | record r =>
          obtain ⟨members, rfl, present, missing, further⟩ := (check_record_eq_nil h).mp hnil
          refine .record h ?_ missing ?_ ?_
          · intro name f inner item hfield hitem
            refine smaller _ expansionLimit _ item (Json.size_lt_of_find? hitem) ?_ 0
            exact present name f inner item hfield hitem
          · intro name item hmem hfield hextra
            obtain ⟨p, hp, _⟩ := further name item hmem hfield
            rw [hextra] at hp
            cases hp
          · intro name item extra inner hmem hfield hextra
            obtain ⟨p, hp, hitem⟩ := further name item hmem hfield
            rw [hextra] at hp
            cases hp
            exact smaller _ expansionLimit _ item (Json.size_lt_of_mem_object hmem) hitem 0
  | list element =>
    cases element with
    | none =>
      have := check_listAny_eq_nil.mp hnil
      cases value <;> first | exact .listAny | cases this
    | some element =>
      obtain ⟨items, rfl, hitems⟩ := check_list_eq_nil.mp hnil
      refine .list fun item hitem => ?_
      exact smaller _ expansionLimit _ item (Json.size_lt_of_mem_array hitem) (hitems item hitem) 0
  | variadic element =>
    obtain ⟨items, rfl, hitems⟩ := check_variadic_eq_nil.mp hnil
    refine .variadic fun item hitem => ?_
    exact smaller _ expansionLimit _ item (Json.size_lt_of_mem_array hitem) (hitems item hitem) 0
  | tuple elements =>
    obtain ⟨items, rfl, length, hitems⟩ := check_tuple_eq_nil.mp hnil
    refine .tuple length fun p hp => ?_
    have lt := Json.size_lt_of_mem_array (List.of_mem_zip hp).2
    exact smaller _ expansionLimit _ p.2 lt (hitems p hp) 0
  | map key element =>
    obtain ⟨members, rfl, hmembers⟩ := check_map_eq_nil.mp hnil
    refine .map (fun name item hmem => (hmembers name item hmem).1) ?_ ?_
    · intro name item narrow hmem hkey
      refine smaller _ expansionLimit _ _ (Json.key_size_lt_of_mem_object hmem) ?_ 0
      exact (hmembers name item hmem).2.1 narrow hkey
    · intro name item t hmem helement
      refine smaller _ expansionLimit _ _ (Json.size_lt_of_mem_object hmem) ?_ 0
      exact (hmembers name item hmem).2.2 t helement

/-! ## Completeness -/

/-- What conforms within the limit has no findings, with the expansions left that the derivation
counts on. -/
theorem check_eq_nil_of_conforms {used : Nat} {scope : Scope} {t : TypeExpr} {value : Json}
    (h : Conforms source expansionLimit used scope t value) (lt : used < expansionLimit) :
    source.check scope (expansionLimit - used) t value = [] := by
  have start : 0 < expansionLimit := by decide
  induction h with
  | any => exact check_any
  | string => exact check_string_eq_nil.mpr rfl
  | number => exact check_number_eq_nil.mpr rfl
  | integer h => exact check_integer_eq_nil.mpr h
  | boolean => exact check_boolean_eq_nil.mpr rfl
  | null => exact check_null_eq_nil.mpr rfl
  | literal mem admits => exact check_literal_eq_nil.mpr ⟨_, mem, admits⟩
  | required _ ih =>
    rw [check_required]
    exact ih lt
  | notRequired _ ih =>
    rw [check_notRequired]
    exact ih lt
  | documented _ ih =>
    rw [check_documented]
    exact ih lt
  | selfFree h => exact check_self_of_none h
  | self h next _ ih =>
    rw [check_self_of_some h, Nat.sub_sub]
    exact ih (Nat.cast_lt.mp next)
  | varFree h => exact check_var_of_none h
  | var h next _ ih =>
    rw [check_var_of_some h, Nat.sub_sub]
    exact ih (Nat.cast_lt.mp next)
  | union mem next _ ih =>
    refine check_union_eq_nil.mpr ⟨_, mem, ?_⟩
    rw [Nat.sub_sub]
    exact ih (Nat.cast_lt.mp next)
  | @undescribed used _ _ _ _ h =>
    obtain ⟨left, hleft⟩ : ∃ left, expansionLimit - used = left + 1 :=
      Nat.exists_eq_add_one.mpr (Nat.sub_pos_of_lt lt)
    rw [hleft]
    exact check_undescribed h
  | @opaqueType used _ _ _ _ _ h =>
    obtain ⟨left, hleft⟩ : ∃ left, expansionLimit - used = left + 1 :=
      Nat.exists_eq_add_one.mpr (Nat.sub_pos_of_lt lt)
    rw [hleft]
    exact (check_opaque_eq_nil h).mpr rfl
  | @aliased used _ _ _ _ _ h next _ ih =>
    have hleft : expansionLimit - used = expansionLimit - (used + 1) + 1 := by omega
    rw [hleft, check_aliased h]
    exact ih (Nat.cast_lt.mp next)
  | @record used _ _ _ _ _ h _ missing further _ present extra =>
    obtain ⟨left, hleft⟩ : ∃ left, expansionLimit - used = left + 1 :=
      Nat.exists_eq_add_one.mpr (Nat.sub_pos_of_lt lt)
    rw [hleft]
    refine (check_record_eq_nil h).mpr ⟨_, rfl, ?_, missing, ?_⟩
    · intro name f inner item hfield hitem
      exact present name f inner item hfield hitem start
    · intro name item hmem hfield
      obtain ⟨p, hp⟩ := Option.ne_none_iff_exists'.mp (further name item hmem hfield)
      exact ⟨p, hp, extra name item p.1 p.2 hmem hfield hp start⟩
  | listAny => exact check_listAny_eq_nil.mpr rfl
  | list _ ih => exact check_list_eq_nil.mpr ⟨_, rfl, fun item hitem => ih item hitem start⟩
  | variadic _ ih => exact check_variadic_eq_nil.mpr ⟨_, rfl, fun item hitem => ih item hitem start⟩
  | tuple length _ ih =>
    exact check_tuple_eq_nil.mpr ⟨_, rfl, length, fun p hp => ih p hp start⟩
  | map kinds _ _ keys items =>
    refine check_map_eq_nil.mpr ⟨_, rfl, fun name item hmem => ⟨kinds name item hmem, ?_, ?_⟩⟩
    · exact fun narrow hkey => keys name item narrow hmem hkey start
    · exact fun t helement => items name item t hmem helement start

/-- The check decides conformance. A value without findings conforms; a value that conforms by fewer
than `expansionLimit` expansions between one descent into the data and the next has no findings,
however deep it is. -/
theorem findings_decides_conformance (source : Registry) (t : TypeExpr) (value : Json) :
    (source.findings t value = [] → Conforms source ⊤ 0 .empty t value) ∧
      (Conforms source expansionLimit 0 .empty t value → source.findings t value = []) := by
  constructor
  · exact fun hnil => conforms_of_check_eq_nil .empty expansionLimit t value hnil 0
  · exact fun h => check_eq_nil_of_conforms h (by decide)

/-- A record that refers to itself. -/
def links : Registry :=
  ⟨[("Link", .record
    { name := "Link", fields := [{ name := "next", type := .self, optional := true }] })], []⟩

theorem conforms_link {limit : ℕ∞} {used : Nat} {scope : Scope} {members : List (String × Json)}
    (known : ∀ p ∈ members, p.1 = "next")
    (next : ∀ item, Entries.find? members "next" = some item →
      Conforms links limit 0 (scope.enterRecord "Link" [] []) .self item) :
    Conforms links limit used scope (.named "Link" []) (.object members) := by
  have field : ∀ name, links.fieldOf (scope.enterRecord "Link" [] [])
      { name := "Link", fields := [{ name := "next", type := .self, optional := true }] } name =
        if "next" = name then
          some ({ name := "next", type := .self, optional := true },
            scope.enterRecord "Link" [] [])
        else none := by
    intro name
    rw [fieldOf_of_no_bases rfl, List.find?_cons]
    by_cases hname : "next" = name <;> simp [hname]
  refine .record rfl ?_ ?_ ?_ ?_
  · intro name f inner item hfield hitem
    rw [field] at hfield
    split at hfield
    · rename_i hname
      subst hname
      cases hfield
      exact next item hitem
    · cases hfield
  · intro name f inner hfield _
    rw [field] at hfield
    split at hfield
    · cases hfield
      rfl
    · cases hfield
  · intro name item hmem hfield
    rw [field, if_pos (known _ hmem).symm] at hfield
    cases hfield
  · intro name item extra inner hmem hfield
    rw [field, if_pos (known _ hmem).symm] at hfield
    cases hfield

/-- A value of two links. -/
theorem findings_links_eq_nil :
    links.findings (.named "Link" []) (.object [("next", .object [])]) = [] := by
  refine (findings_decides_conformance links (.named "Link" []) _).2 ?_
  refine conforms_link (by simp) fun item hitem => ?_
  cases hitem
  refine .self rfl (Nat.cast_lt.mpr (by decide)) ?_
  exact conforms_link (fun p hp => by cases hp) fun item hitem => by cases hitem

end Registry

end SchemaDialogue
