import SchemaDialogue.Proofs.Entries
import SchemaDialogue.Proofs.Verdict

/-!
# How findings arise

Each finding of the check starts at some value: as a finding about that value itself, about a field
that it lacks or about a member that it should not have. From there it is handed outwards, and gets
the segment of each part that is left.

* **result**: `Registry.arises_of_mem_check`: every finding about a value arises from it.
-/

namespace SchemaDialogue

/-- A finding arises from a value. -/
inductive Finding.Arises : Json → Finding → Prop
  /-- It is about the value itself. -/
  | here {value cause} : cause ≠ .notPermitted → Arises value (.here value cause)
  /-- The value has no member of that name. -/
  | missing {members : Entries Json} {name} : name ∉ members.keys →
      Arises (.object members) ⟨[name], .object members, .fieldMissing⟩
  /-- A member should not be there. -/
  | notPermitted {members name item} : (name, item) ∈ members →
      Arises (.object members) ⟨[name], item, .notPermitted⟩
  /-- It arises from a member. -/
  | member {members name item f} : (name, item) ∈ members → Arises item f →
      Arises (.object members) (f.within name)
  /-- It arises from the name of a member. -/
  | key {members : Entries Json} {name f} : name ∈ members.keys → Arises (.string name) f →
      Arises (.object members) (f.within name)
  /-- It arises from an item. -/
  | item {items : List Json} {index : Nat} {item f} : items[index]? = some item → Arises item f →
      Arises (.array items) (f.within (toString index))

namespace Registry

open Finding

variable {source : Registry} {scope : Scope} {left : Nat} {value : Json}

theorem arises_here {cause : Cause} (other : cause ≠ .notPermitted) :
    ∀ f ∈ [Finding.here value cause], Arises value f := by
  intro f hf
  obtain rfl := List.mem_singleton.mp hf
  exact .here other

theorem arises_unlessKind {kind : Kind} : ∀ f ∈ unlessKind kind value, Arises value f := by
  intro f hf
  unfold unlessKind at hf
  split at hf
  · cases hf
  · exact arises_here (by simp) f hf

theorem arises_keyKind {key : Option TypeExpr} {name : String} :
    ∀ f ∈ keyKindFindings key name, Arises (.string name) f := by
  intro f hf
  unfold keyKindFindings at hf
  split at hf
  · split at hf
    · cases hf
    · exact arises_here (by simp) f hf
  · split at hf
    · cases hf
    · exact arises_here (by simp) f hf
  · cases hf

theorem arises_item {items : List Json} {index : Nat} {item : Json} {findings : List Finding}
    (at_index : items[index]? = some item) (each : ∀ f ∈ findings, Arises item f) :
    ∀ f ∈ findings.map (Finding.within (toString index)), Arises (.array items) f := by
  intro f hf
  obtain ⟨g, hg, rfl⟩ := List.mem_map.mp hf
  exact .item at_index (each g hg)

theorem arises_member {members : List (String × Json)} {name : String} {item : Json}
    {findings : List Finding} (mem : (name, item) ∈ members)
    (each : ∀ f ∈ findings, Arises item f) :
    ∀ f ∈ findings.map (Finding.within name), Arises (.object members) f := by
  intro f hf
  obtain ⟨g, hg, rfl⟩ := List.mem_map.mp hf
  exact .member mem (each g hg)

section

-- what the check follows: findings about smaller values arise from these
variable (smaller : ∀ (scope : Scope) (left : Nat) (t : TypeExpr) (part : Json),
  part.size < value.size → ∀ f ∈ source.check scope left t part, Arises part f)

include smaller

/-- About a record: from the fields that it lacks, from its fields and from further members. -/
theorem arises_record {key : TypeKey} {args : List TypeExpr} {r : RecordDef}
    (lookup : source.lookup key = some (.record r)) :
    ∀ f ∈ source.check scope (left + 1) (.named key args) value, Arises value f := by
  cases value with
  | object members =>
    rw [check_record_object lookup]
    intro f hf
    rcases List.mem_append.mp hf with hf | hf
    · obtain ⟨d, _, hf⟩ := List.mem_flatMap.mp hf
      unfold fieldFindings at hf
      split at hf
      · rename_i item found
        exact arises_member (Entries.mem_of_find? found)
          (smaller _ _ _ item (Json.size_lt_of_find? found)) f hf
      · rename_i absent
        split at hf
        · cases hf
        · obtain rfl := List.mem_singleton.mp hf
          exact .missing (Entries.find?_eq_none.mp absent)
    · obtain ⟨⟨name, item⟩, mem, hf⟩ := List.mem_flatMap.mp hf
      unfold memberFindings at hf
      split at hf
      · cases hf
      · split at hf
        · exact arises_member mem (smaller _ _ _ item (Json.size_lt_of_mem_object mem)) f hf
        · obtain rfl := List.mem_singleton.mp hf
          exact .notPermitted mem
  | _ =>
    rw [check_record_of_ne lookup (by simp)]
    exact arises_here (by simp)

/-- About a list: from its items. -/
theorem arises_list {element : TypeExpr} :
    ∀ f ∈ source.check scope left (.list (some element)) value, Arises value f := by
  cases value with
  | array items =>
    rw [check_list_array]
    intro f hf
    obtain ⟨p, mem, hf⟩ := List.mem_flatMap.mp hf
    refine arises_item (List.mem_zipIdx_iff_getElem?.mp mem) ?_ f hf
    exact smaller _ _ _ _ (Json.size_lt_of_mem_array (List.fst_mem_of_mem_zipIdx mem))
  | _ =>
    rw [check_list_of_ne (by simp)]
    exact arises_here (by simp)

/-- About a tuple: from its length and from its items. -/
theorem arises_tuple {elements : List TypeExpr} :
    ∀ f ∈ source.check scope left (.tuple elements) value, Arises value f := by
  cases value with
  | array items =>
    rw [check_tuple_array]
    intro f hf
    rcases List.mem_append.mp hf with hf | hf
    · split at hf
      · cases hf
      · exact arises_here (by simp) f hf
    · obtain ⟨p, mem, hf⟩ := List.mem_flatMap.mp hf
      have paired := List.of_mem_zip (List.fst_mem_of_mem_zipIdx mem)
      have at_index : items[p.2]? = some p.1.2 :=
        (List.getElem?_zip_eq_some.mp (List.mem_zipIdx_iff_getElem?.mp mem)).2
      exact arises_item at_index (smaller _ _ _ _ (Json.size_lt_of_mem_array paired.2)) f hf
  | _ =>
    rw [check_tuple_of_ne (by simp)]
    exact arises_here (by simp)

/-- About a map: from the names of its members and from the members. -/
theorem arises_map {key element : Option TypeExpr} :
    ∀ f ∈ source.check scope left (.map key element) value, Arises value f := by
  cases value with
  | object members =>
    rw [check_map_object]
    intro f hf
    obtain ⟨⟨name, item⟩, mem, hf⟩ := List.mem_flatMap.mp hf
    obtain ⟨g, hg, rfl⟩ := List.mem_map.mp hf
    have named : name ∈ Entries.keys members := List.mem_map_of_mem mem
    rcases List.mem_append.mp hg with hg | hg
    · refine .key named ?_
      rcases List.mem_append.mp hg with hg | hg
      · exact arises_keyKind g hg
      · split at hg
        · exact smaller _ _ _ _ (Json.key_size_lt_of_mem_object mem) g hg
        · cases hg
    · split at hg
      · exact .member mem (smaller _ _ _ item (Json.size_lt_of_mem_object mem) g hg)
      · cases hg
  | _ =>
    rw [check_map_of_ne (by simp)]
    exact arises_here (by simp)

end

/-- Every finding about a value arises from it. -/
theorem arises_of_mem_check (scope : Scope) (left : Nat) (t : TypeExpr) (value : Json) :
    ∀ f ∈ source.check scope left t value, Arises value f := by
  induction scope, left, t, value using check_induction with
  | step scope left t value smaller fewer closed component =>
  cases t with
  | required inner =>
    rw [check_required]
    exact component left inner (Nat.le_refl _) .required
  | notRequired inner =>
    rw [check_notRequired]
    exact component left inner (Nat.le_refl _) .notRequired
  | documented doc inner =>
    rw [check_documented]
    exact component left inner (Nat.le_refl _) .documented
  | any =>
    intro f hf
    rw [check_any] at hf
    cases hf
  | null =>
    rw [check]
    intro f hf
    split at hf
    · cases hf
    · exact arises_here (by simp) f hf
  | never =>
    rw [check]
    exact arises_here (by simp)
  | self =>
    cases this : scope.this with
    | none =>
      rw [check_self_of_none this]
      exact fun f hf => by cases hf
    | some bound =>
      rw [check_self_of_some this]
      exact closed _ bound (Nat.sub_le _ _) rfl
  | var name =>
    cases found : scope.bindings.find? name with
    | none =>
      rw [check_var_of_none found]
      exact fun f hf => by cases hf
    | some bound =>
      rw [check_var_of_some found]
      exact closed _ bound (Nat.sub_le _ _) rfl
  | union members =>
    rw [check]
    split
    · rename_i attempts settled
      obtain ⟨rfl, _⟩ := attemptAll_eq_some settled
      -- what is replayed is what one attempt at the same value has found
      rcases settleUnion_cases members _ with ⟨choices, said⟩ | said | ⟨attempt, mem, said⟩ <;>
        rw [said]
      · exact arises_here (by simp)
      · exact arises_here (by simp)
      · obtain ⟨m, hm, rfl⟩ := List.mem_map.mp mem
        exact component _ m (Nat.sub_le _ _) (.union hm)
    · exact fun f hf => by cases hf
  | literal choices =>
    rw [check]
    intro f hf
    split at hf
    · cases hf
    · exact arises_here (by simp) f hf
  | named key args =>
    cases left with
    | zero =>
      rw [check]
      exact arises_here (by simp)
    | succ left =>
      cases lookup : source.lookup key with
      | none =>
        rw [check_undescribed lookup]
        exact fun f hf => by cases hf
      | some definition =>
        cases definition with
        | opaqueType name =>
          rw [check, lookup]
          exact arises_unlessKind
        | aliased a =>
          rw [check_aliased lookup]
          exact fewer _ _ _ (Nat.lt_succ_self _)
        | record r => exact arises_record smaller lookup
  | list element =>
    cases element with
    | none =>
      rw [check]
      exact arises_unlessKind
    | some element => exact arises_list smaller
  | variadic element =>
    rw [check_variadic_eq_list]
    exact arises_list smaller
  | tuple elements => exact arises_tuple smaller
  | map key element => exact arises_map smaller
  | _ =>
    rw [check]
    exact arises_unlessKind

end Registry

end SchemaDialogue
