import SchemaDialogue.Conform.Validate
import SchemaDialogue.Proofs.Heritage

/-!
# When the check finds nothing

The check collects findings; most questions about it only ask whether there are any. For each kind
of type this file says when there are none:

* **leaves**: `check_string_eq_nil`, `check_literal_eq_nil` and their siblings;
* **containers**: `check_list_eq_nil`, `check_tuple_eq_nil`, `check_map_eq_nil`; all that is found
  about an array or an object is found about its parts, in a row (`check_list_array`,
  `check_record_object`);
* **unions**: `check_union_eq_nil`: some member finds nothing, whatever the report would say;
* **references**: `check_aliased`, `check_record_eq_nil` and the cases without a definition.

`check_induction` is the induction that the check itself follows.
-/

namespace SchemaDialogue

theorem Finding.unlessKind_eq_nil {kind : Kind} {value : Json} :
    Finding.unlessKind kind value = [] ↔ kind.admits value = true := by
  unfold Finding.unlessKind
  split <;> simp_all

/-- The positions of the items do not matter to a condition on each item. -/
theorem forall_mem_zipIdx {α : Type} {l : List α} {P : α → Prop} :
    (∀ a index, (a, index) ∈ l.zipIdx → P a) ↔ ∀ a ∈ l, P a := by
  constructor
  · intro h a ha
    obtain ⟨index, hlt, rfl⟩ := List.getElem_of_mem ha
    exact h _ index (List.mem_zipIdx_iff_getElem?.mpr (List.getElem?_eq_getElem hlt))
  · intro h a index ha
    exact h a (List.fst_mem_of_mem_zipIdx ha)

/-- Going through a list with the membership of each item at hand gives nothing else. -/
theorem flatMap_attach {α β : Type} {l : List α} {f : { x // x ∈ l } → List β} {g : α → List β}
    (h : ∀ x (hx : x ∈ l), f ⟨x, hx⟩ = g x) : l.attach.flatMap f = l.flatMap g := by
  have same : l.attach.map f = l.map g := List.ext_getElem (by simp) (by simp [h])
  rw [List.flatMap_def, same, List.flatMap_def]

/-! ## Alternatives -/

/-- Trying alternatives ends early exactly when one of them finds nothing. -/
theorem attemptAll_eq_none {α β : Type} {alternatives : List α} {find : α → List β} :
    attemptAll alternatives (fun a _ => find a) = none ↔ ∃ a ∈ alternatives, find a = [] := by
  induction alternatives with
  | nil => simp [attemptAll]
  | cons a rest ih =>
    cases found : find a with
    | nil => simp [attemptAll, found]
    | cons b bs => simp [attemptAll, found, ih]

/-- When all alternatives are tried, each is kept with what it found, which is something. -/
theorem attemptAll_eq_some {α β : Type} {alternatives : List α} {find : α → List β}
    {attempts : List (α × List β)}
    (h : attemptAll alternatives (fun a _ => find a) = some attempts) :
    attempts = alternatives.map (fun a => (a, find a)) ∧ ∀ a ∈ alternatives, find a ≠ [] := by
  induction alternatives generalizing attempts with
  | nil =>
    simp only [attemptAll, Option.some.injEq] at h
    subst h
    exact ⟨rfl, fun a ha => by cases ha⟩
  | cons a rest ih =>
    cases found : find a with
    | nil => simp [attemptAll, found] at h
    | cons b bs =>
      simp only [attemptAll, found, Option.map_eq_some_iff] at h
      obtain ⟨others, hothers, rfl⟩ := h
      obtain ⟨hmap, hne⟩ := ih hothers
      refine ⟨by rw [hmap, List.map_cons, found], ?_⟩
      intro c hc
      rcases List.mem_cons.mp hc with rfl | hc
      · rw [found]
        exact List.cons_ne_nil _ _
      · exact hne c hc

/-- Trying alternatives goes through them until one finds nothing. -/
theorem attemptAll_eq_mapM {α β : Type} (find : α → List β) (l : List α) :
    attemptAll l (fun a _ => find a) =
      l.mapM fun a => if (find a).isEmpty then none else some (a, find a) := by
  induction l with
  | nil => rfl
  | cons a rest ih =>
    rw [attemptAll, List.mapM_cons]
    cases hfound : find a with
    | nil => rfl
    | cons b bs =>
      rw [ih]
      simp only [List.isEmpty_cons, Bool.false_eq_true, if_false]
      cases rest.mapM fun a => if (find a).isEmpty then none else some (a, find a) <;> rfl

/-- The type that texts are checked against is the type of the keys inside of its wrappers. -/
theorem unwrapped_of_keyType? {key : Option TypeExpr} {narrow : TypeExpr}
    (h : keyType? key = some narrow) : ∃ t, key = some t ∧ t.unwrapped = narrow := by
  cases key with
  | none => cases h
  | some t =>
    refine ⟨t, rfl, ?_⟩
    unfold keyType? at h
    split at h <;> simp_all

namespace Registry

variable {source : Registry} {scope : Scope} {left : Nat} {value : Json}

/-- What is said about a union that no member accepts: one finding about the value, or what one of
the attempts has found. -/
theorem settleUnion_cases (members : List TypeExpr) (attempts : List (TypeExpr × List Finding)) :
    (∃ choices, source.settleUnion left scope members attempts value =
      [.here value (.notAmong choices)]) ∨
    source.settleUnion left scope members attempts value = [.here value .noMember] ∨
    ∃ p ∈ attempts, source.settleUnion left scope members attempts value = p.2 := by
  unfold settleUnion
  split
  · exact .inl ⟨_, rfl⟩
  · dsimp only
    split
    · rename_i member findings meant
      -- the one candidate that is left is among the attempts
      have kept : (member, findings) ∈ [(member, findings)] := List.mem_singleton.mpr rfl
      rw [← meant] at kept
      refine .inr (.inr ⟨(member, findings), ?_, rfl⟩)
      split at kept
      · exact (List.mem_filter.mp kept).1
      · exact (List.mem_filter.mp (List.mem_filter.mp kept).1).1
    · exact .inr (.inl rfl)

theorem settleUnion_ne_nil {members : List TypeExpr} {attempts : List (TypeExpr × List Finding)}
    (found : ∀ p ∈ attempts, p.2 ≠ []) :
    source.settleUnion left scope members attempts value ≠ [] := by
  rcases settleUnion_cases members attempts with ⟨choices, said⟩ | said | ⟨p, mem, said⟩ <;>
    rw [said]
  · exact List.cons_ne_nil _ _
  · exact List.cons_ne_nil _ _
  · exact found p mem

/-! ## Leaves -/

theorem check_string_eq_nil :
    source.check scope left .string value = [] ↔ Kind.string.admits value = true := by
  rw [check, Finding.unlessKind_eq_nil]

theorem check_number_eq_nil :
    source.check scope left .number value = [] ↔ Kind.number.admits value = true := by
  rw [check, Finding.unlessKind_eq_nil]

theorem check_integer_eq_nil :
    source.check scope left .integer value = [] ↔ Kind.integer.admits value = true := by
  rw [check, Finding.unlessKind_eq_nil]

theorem check_boolean_eq_nil :
    source.check scope left .boolean value = [] ↔ Kind.boolean.admits value = true := by
  rw [check, Finding.unlessKind_eq_nil]

theorem check_null_eq_nil :
    source.check scope left .null value = [] ↔ value = .null := by
  rw [check]
  cases value <;> simp [Json.isNull]

theorem check_never_ne_nil : source.check scope left .never value ≠ [] := by
  rw [check]
  exact List.cons_ne_nil _ _

theorem check_literal_eq_nil {choices : List Literal} :
    source.check scope left (.literal choices) value = [] ↔
      ∃ choice ∈ choices, choice.admits value = true := by
  rw [check]
  split
  · rename_i h
    exact iff_of_true rfl (List.any_eq_true.mp h)
  · rename_i h
    exact iff_of_false (List.cons_ne_nil _ _) fun h' => h (List.any_eq_true.mpr h')

/-! ## Parameters, `self` and unions -/

theorem check_self_of_none (h : scope.this = none) :
    source.check scope left .self value = [] := by
  rw [check, h]

theorem check_self_of_some {this : ClosedType} (h : scope.this = some this) :
    source.check scope left .self value = source.check scope (left - 1) this.1 value := by
  rw [check, h]

theorem check_var_of_none {name : String} (h : scope.bindings.find? name = none) :
    source.check scope left (.var name) value = [] := by
  rw [check, h]

theorem check_var_of_some {name : String} {bound : ClosedType}
    (h : scope.bindings.find? name = some bound) :
    source.check scope left (.var name) value = source.check scope (left - 1) bound.1 value := by
  rw [check, h]

theorem check_union_eq_nil {members : List TypeExpr} :
    source.check scope left (.union members) value = [] ↔
      ∃ m ∈ members, source.check scope (left - 1) m value = [] := by
  rw [check]
  split
  · rename_i attempts h
    obtain ⟨rfl, found⟩ := attemptAll_eq_some h
    refine iff_of_false (settleUnion_ne_nil ?_) ?_
    · intro p hp
      obtain ⟨m, hm, rfl⟩ := List.mem_map.mp hp
      exact found m hm
    · rintro ⟨m, hm, hnil⟩
      exact found m hm hnil
  · rename_i h
    exact iff_of_true rfl (attemptAll_eq_none.mp h)

/-! ## Parts of arrays and objects -/

/-- The findings about a field of a record. -/
def fieldFindings (source : Registry) (members : Entries Json) (f : ShapeField Scope) :
    List Finding :=
  match members.find? f.name with
  | some item => (source.check f.scope expansionLimit f.type item).map (·.within f.name)
  | none => if f.optional then [] else [⟨[f.name], .object members, .fieldMissing⟩]

/-- The findings about a member that may be no field of a record. -/
def memberFindings (source : Registry) (shape : Shape Scope) (member : String × Json) :
    List Finding :=
  if shape.hasField member.1 then []
  else
    match shape.extra with
    | some (extra, inner) =>
      (source.check inner expansionLimit extra member.2).map (·.within member.1)
    | none => [⟨[member.1], member.2, .notPermitted⟩]

/-- The findings about a member of a map. -/
def entryFindings (source : Registry) (scope : Scope) (key element : Option TypeExpr)
    (member : String × Json) : List Finding :=
  (keyKindFindings key member.1 ++
    (match keyType? key with
      | some narrow => source.check scope expansionLimit narrow (.string member.1)
      | none => []) ++
    match element with
    | some element => source.check scope expansionLimit element member.2
    | none => []).map (·.within member.1)

theorem check_record_object {key : TypeKey} {args : List TypeExpr} {r : RecordDef}
    (lookup : source.lookup key = some (.record r)) (members : Entries Json) :
    source.check scope (left + 1) (.named key args) (.object members) =
      (source.shape (scope.enterRecord key r.typeParams args) r).fields.flatMap
          (source.fieldFindings members) ++
        members.flatMap
          (source.memberFindings (source.shape (scope.enterRecord key r.typeParams args) r)) := by
  rw [check, lookup]
  refine congr (congrArg _ (congrArg (List.flatMap · _) (funext fun f => ?_)))
    (flatMap_attach fun _ _ => rfl)
  unfold fieldFindings
  cases Entries.find? members f.name <;> rfl

theorem check_record_of_ne {key : TypeKey} {args : List TypeExpr} {r : RecordDef}
    (lookup : source.lookup key = some (.record r)) (other : ∀ members, value ≠ .object members) :
    source.check scope (left + 1) (.named key args) value = [.here value (.wrongKind .object)] := by
  rw [check, lookup]
  cases value with
  | object members => exact absurd rfl (other members)
  | _ => rfl

theorem check_list_array {element : TypeExpr} (items : List Json) :
    source.check scope left (.list (some element)) (.array items) =
      items.zipIdx.flatMap fun p =>
        (source.check scope expansionLimit element p.1).map (·.within (toString p.2)) := by
  rw [check]
  exact flatMap_attach fun _ _ => rfl

theorem check_list_of_ne {element : TypeExpr} (other : ∀ items, value ≠ .array items) :
    source.check scope left (.list (some element)) value = [.here value (.wrongKind .array)] := by
  cases value with
  | array items => exact absurd rfl (other items)
  | _ =>
    rw [check]
    simp

theorem check_tuple_array {elements : List TypeExpr} (items : List Json) :
    source.check scope left (.tuple elements) (.array items) =
      (if items.length = elements.length then []
        else [.here (.array items) (.tupleLength elements.length items.length)]) ++
      (elements.zip items).zipIdx.flatMap fun p =>
        (source.check scope expansionLimit p.1.1 p.1.2).map (·.within (toString p.2)) := by
  rw [check]
  exact congrArg _ (flatMap_attach fun _ _ => rfl)

theorem check_tuple_of_ne {elements : List TypeExpr} (other : ∀ items, value ≠ .array items) :
    source.check scope left (.tuple elements) value = [.here value (.wrongKind .array)] := by
  cases value with
  | array items => exact absurd rfl (other items)
  | _ =>
    rw [check]
    simp

theorem check_map_object {key element : Option TypeExpr} (members : Entries Json) :
    source.check scope left (.map key element) (.object members) =
      members.flatMap (source.entryFindings scope key element) := by
  rw [check]
  refine flatMap_attach fun member _ => ?_
  unfold entryFindings
  cases keyType? key <;> cases element <;> rfl

theorem check_map_of_ne {key element : Option TypeExpr}
    (other : ∀ members, value ≠ .object members) :
    source.check scope left (.map key element) value = [.here value (.wrongKind .object)] := by
  cases value with
  | object members => exact absurd rfl (other members)
  | _ =>
    rw [check]
    simp

/-- A list written as a tuple of any length is checked as a list. -/
theorem check_variadic_eq_list (element : TypeExpr) :
    source.check scope left (.variadic element) value =
      source.check scope left (.list (some element)) value := by
  cases value with
  | array items => rw [check, check]
  | _ => rw [check, check] <;> simp

/-! ## References -/

theorem check_named_zero {key : TypeKey} {args : List TypeExpr} :
    source.check scope 0 (.named key args) value ≠ [] := by
  rw [check]
  exact List.cons_ne_nil _ _

theorem check_undescribed {key : TypeKey} {args : List TypeExpr}
    (h : source.lookup key = none) :
    source.check scope (left + 1) (.named key args) value = [] := by
  rw [check, h]

theorem check_opaque_eq_nil {key : TypeKey} {args : List TypeExpr} {name : String}
    (h : source.lookup key = some (.opaqueType name)) :
    source.check scope (left + 1) (.named key args) value = [] ↔
      Kind.object.admits value = true := by
  rw [check, h, Finding.unlessKind_eq_nil]

theorem check_aliased {key : TypeKey} {args : List TypeExpr} {a : AliasDef}
    (h : source.lookup key = some (.aliased a)) :
    source.check scope (left + 1) (.named key args) value =
      source.check (scope.enter a.typeParams args) left a.target value := by
  rw [check, h]

/-- An object passes a record when each of its fields passes or may be left out, and each further
member passes the type for further members. -/
theorem check_record_eq_nil {key : TypeKey} {args : List TypeExpr} {r : RecordDef}
    (h : source.lookup key = some (.record r)) :
    source.check scope (left + 1) (.named key args) value = [] ↔
      ∃ members, value = .object members ∧
        let inside := scope.enterRecord key r.typeParams args
        (∀ name f inner item, source.fieldOf inside r name = some (f, inner) →
          Entries.find? members name = some item →
          source.check inner expansionLimit f.type item = []) ∧
        (∀ name f inner, source.fieldOf inside r name = some (f, inner) →
          Entries.find? members name = none → f.isOptional = true) ∧
        ∀ name item, (name, item) ∈ members → source.fieldOf inside r name = none →
          ∃ p, source.extraOf inside r = some p ∧
            source.check p.2 expansionLimit p.1 item = [] := by
  cases value with
  | object members =>
    rw [check_record_object h]
    simp only [fieldFindings, memberFindings, List.append_eq_nil_iff, List.flatMap_eq_nil_iff,
      Prod.forall, Json.object.injEq, exists_eq_left']
    constructor
    · rintro ⟨hfields, hfurther⟩
      refine ⟨?_, ?_, fun name item hmem hfield => ?_⟩
      · intro name f inner item hfield hitem
        have hname := name_of_fieldOf hfield
        subst hname
        have := hfields (.ofField inner f) (mem_shape_fields.mpr ⟨f, inner, hfield, rfl⟩)
        split at this
        · rename_i other hother
          cases hitem.symm.trans hother
          exact List.map_eq_nil_iff.mp this
        · rename_i hnone
          cases hitem.symm.trans hnone
      · intro name f inner hfield hnone
        have hname := name_of_fieldOf hfield
        subst hname
        have := hfields (.ofField inner f) (mem_shape_fields.mpr ⟨f, inner, hfield, rfl⟩)
        split at this
        · rename_i item hitem
          cases hnone.symm.trans hitem
        · split at this
          · assumption
          · cases this
      · have := hfurther name item hmem
        rw [hasField_shape_eq_false.mpr hfield, shape_extra] at this
        split at this
        · cases ‹false = true›
        · split at this
          · rename_i extra inner hextra
            exact ⟨(extra, inner), hextra, List.map_eq_nil_iff.mp this⟩
          · cases this
    · rintro ⟨hpresent, hmissing, hfurther⟩
      refine ⟨fun f hf => ?_, fun name item hmem => ?_⟩
      · obtain ⟨d, inner, hfield, heq⟩ := mem_shape_fields.mp hf
        split
        · rename_i item hitem
          rw [heq]
          exact List.map_eq_nil_iff.mpr (hpresent f.name d inner item hfield hitem)
        · rename_i hnone
          rw [if_pos]
          rw [heq]
          exact hmissing f.name d inner hfield hnone
      · rw [shape_extra]
        cases hfield : (source.shape (scope.enterRecord key r.typeParams args) r).hasField name with
        | true => rfl
        | false =>
          obtain ⟨p, hextra, hitem⟩ := hfurther name item hmem (hasField_shape_eq_false.mp hfield)
          rw [hextra]
          exact List.map_eq_nil_iff.mpr hitem
  | _ => simp [check_record_of_ne h]

/-! ## Containers -/

theorem check_listAny_eq_nil :
    source.check scope left (.list none) value = [] ↔ Kind.array.admits value = true := by
  rw [check, Finding.unlessKind_eq_nil]

theorem check_list_eq_nil {element : TypeExpr} :
    source.check scope left (.list (some element)) value = [] ↔
      ∃ items, value = .array items ∧
        ∀ item ∈ items, source.check scope expansionLimit element item = [] := by
  cases value with
  | array items =>
    rw [check_list_array]
    simp only [List.flatMap_eq_nil_iff, Prod.forall, List.map_eq_nil_iff, Json.array.injEq,
      exists_eq_left']
    exact forall_mem_zipIdx
  | _ => simp [check_list_of_ne]

theorem check_variadic_eq_nil {element : TypeExpr} :
    source.check scope left (.variadic element) value = [] ↔
      ∃ items, value = .array items ∧
        ∀ item ∈ items, source.check scope expansionLimit element item = [] := by
  rw [check_variadic_eq_list]
  exact check_list_eq_nil

theorem check_tuple_eq_nil {elements : List TypeExpr} :
    source.check scope left (.tuple elements) value = [] ↔
      ∃ items, value = .array items ∧ items.length = elements.length ∧
        ∀ p ∈ elements.zip items, source.check scope expansionLimit p.1 p.2 = [] := by
  cases value with
  | array items =>
    rw [check_tuple_array]
    simp only [List.append_eq_nil_iff, List.flatMap_eq_nil_iff, Prod.forall, List.map_eq_nil_iff,
      ite_eq_left_iff, Json.array.injEq, exists_eq_left']
    refine and_congr ?_ ?_
    · simp
    · simpa only [Prod.forall] using forall_mem_zipIdx (l := elements.zip items)
        (P := fun p => source.check scope expansionLimit p.1 p.2 = [])
  | _ => simp [check_tuple_of_ne]

/-- The conditions on the keys of a map beside those on its values. -/
theorem check_map_eq_nil {key element : Option TypeExpr} :
    source.check scope left (.map key element) value = [] ↔
      ∃ members, value = .object members ∧ ∀ name item, (name, item) ∈ members →
        keyKindFindings key name = [] ∧
        (∀ narrow, keyType? key = some narrow →
          source.check scope expansionLimit narrow (.string name) = []) ∧
        ∀ t, element = some t → source.check scope expansionLimit t item = [] := by
  cases value with
  | object members =>
    rw [check_map_object]
    simp only [entryFindings, List.flatMap_eq_nil_iff, Prod.forall, List.map_eq_nil_iff,
      List.append_eq_nil_iff, Json.object.injEq, exists_eq_left', and_assoc]
    refine forall₃_congr fun name item _ => and_congr_right fun _ => and_congr ?_ ?_
    · cases keyType? key <;> simp
    · cases element <;> simp
  | _ => simp [check_map_of_ne]

/-! ## Induction along the check -/

/-- The induction that the check follows: from one check to checks of smaller values, to checks of
the same value with fewer expansions left, from a parameter or `self` to a closed type, and to the
components of the type. -/
theorem check_induction {motive : Scope → Nat → TypeExpr → Json → Prop}
    (step : ∀ scope left t value,
      (∀ scope' left' t' value', value'.size < value.size → motive scope' left' t' value') →
      (∀ scope' left' t', left' < left → motive scope' left' t' value) →
      (∀ left' (t' : ClosedType), left' ≤ left → t.isClosed = false →
        motive scope left' t'.1 value) →
      (∀ left' t', left' ≤ left → Component t' t → motive scope left' t' value) →
      motive scope left t value)
    (scope : Scope) (left : Nat) (t : TypeExpr) (value : Json) : motive scope left t value := by
  refine step scope left t value ?_ ?_ ?_ ?_
  · intro scope' left' t' value' _
    exact check_induction step scope' left' t' value'
  · intro scope' left' t' _
    exact check_induction step scope' left' t' value
  · intro left' t' _ _
    exact check_induction step scope left' t'.1 value
  · intro left' t' _ component
    exact check_induction step scope left' t' value
termination_by (value.size, left, openness t, sizeOf t)
decreasing_by
  · exact lighter_of_size ‹_›
  · exact lighter_of_expansion ‹_›
  · exact lighter_of_closed ‹_› t'.2 ‹_›
  · exact lighter_of_component ‹_› component

end Registry

end SchemaDialogue
