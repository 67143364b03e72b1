import Mathlib.Logic.Relation
import SchemaDialogue.Json.Strip
import SchemaDialogue.Proofs.Blame
import SchemaDialogue.Proofs.Spelling

/-!
# Stripping nulls

A value is stripped by dropping one `null` after the other:

* **steps**: `DropsNull` takes one `null` out of an array or an object, at any depth, and leaves all
  else where it is, an array or object that becomes empty included;
* **ends**: a value without a `null` below its root (`NullFree`) allows no step;
* **result**: `Json.stripNulls_exact`. The stripped value is the one end that steps lead to, in
  whatever order they are taken.
-/

namespace SchemaDialogue.Json

open Relation

/-- One `null` below the root is dropped, an item of an array or a member of an object. -/
inductive DropsNull : Json → Json → Prop
  | item {before after} : DropsNull (.array (before ++ .null :: after)) (.array (before ++ after))
  | member {before name after} :
      DropsNull (.object (before ++ (name, .null) :: after)) (.object (before ++ after))
  | inItem {before item item' after} : DropsNull item item' →
      DropsNull (.array (before ++ item :: after)) (.array (before ++ item' :: after))
  | inMember {before name item item' after} : DropsNull item item' →
      DropsNull (.object (before ++ (name, item) :: after))
        (.object (before ++ (name, item') :: after))

/-- No `null` stands below the root. -/
def NullFree (v : Json) : Prop := ∀ segments, segments ≠ [] → ¬v.Reaches segments .null

variable {v w : Json}

/-! ## What is kept -/

theorem isNull_eq_true : v.isNull = true ↔ v = .null := by
  cases v <;> simp [isNull]

theorem isNull_eq_false : v.isNull = false ↔ v ≠ .null := by
  cases v <;> simp [isNull]

/-- The items that are kept, in order, each one stripped. -/
theorem stripItems_eq (items : List Json) :
    stripItems items = (items.filter fun item => !item.isNull).map stripNulls := by
  induction items with
  | nil => rfl
  | cons item rest ih =>
    rw [stripItems, ih]
    cases null : item.isNull <;> simp [null]

/-- The members that are kept, in order, each one stripped under its name. -/
theorem stripMembers_eq (members : List (String × Json)) :
    stripMembers members =
      (members.filter fun m => !m.2.isNull).map fun m => (m.1, m.2.stripNulls) := by
  induction members with
  | nil => rfl
  | cons m rest ih =>
    obtain ⟨name, item⟩ := m
    rw [stripMembers, ih]
    cases null : item.isNull <;> simp [null]

theorem mem_stripItems {items : List Json} :
    w ∈ stripItems items ↔ ∃ item ∈ items, item ≠ .null ∧ item.stripNulls = w := by
  simp [stripItems_eq, isNull_eq_false, and_assoc]

theorem mem_stripMembers {members : List (String × Json)} {name : String} :
    (name, w) ∈ stripMembers members ↔
      ∃ item, (name, item) ∈ members ∧ item ≠ .null ∧ item.stripNulls = w := by
  simp [stripMembers_eq, isNull_eq_false, and_assoc]

/-- Stripping changes only what is below the root. -/
theorem stripNulls_eq_null : v.stripNulls = .null ↔ v = .null := by
  cases v <;> simp [stripNulls]

/-! ## Steps -/

theorem DropsNull.kept (h : DropsNull v w) : v.isNull = false ∧ w.isNull = false := by
  cases h <;> simp [isNull]

/-- A step leaves the stripped value as it is. -/
theorem DropsNull.stripNulls_eq (h : DropsNull v w) : v.stripNulls = w.stripNulls := by
  induction h with
  | item => simp [stripNulls, stripItems_eq, isNull]
  | member => simp [stripNulls, stripMembers_eq, isNull]
  | inItem step ih =>
    obtain ⟨kept, kept'⟩ := step.kept
    simp [stripNulls, stripItems_eq, kept, kept', ih]
  | inMember step ih =>
    obtain ⟨kept, kept'⟩ := step.kept
    simp [stripNulls, stripMembers_eq, kept, kept', ih]

theorem stripNulls_eq_of_steps (h : ReflTransGen DropsNull v w) : v.stripNulls = w.stripNulls := by
  induction h with
  | refl => rfl
  | tail _ step ih => exact ih.trans step.stripNulls_eq

/-- The items of an array are stripped one after the other, behind those that have been. -/
theorem steps_stripItems {items : List Json}
    (each : ∀ item ∈ items, ReflTransGen DropsNull item item.stripNulls) (before : List Json) :
    ReflTransGen DropsNull (.array (before ++ items)) (.array (before ++ stripItems items)) := by
  induction items generalizing before with
  | nil => exact .refl
  | cons item rest ih =>
    obtain ⟨first, others⟩ := List.forall_mem_cons.mp each
    rw [stripItems]
    split
    case isTrue null =>
      obtain rfl := isNull_eq_true.mp null
      exact .head .item (ih others before)
    case isFalse =>
      have inside : ReflTransGen DropsNull (.array (before ++ item :: rest))
          (.array (before ++ item.stripNulls :: rest)) :=
        first.lift (fun v => Json.array (before ++ v :: rest)) fun _ _ step => .inItem step
      simpa using inside.trans (by simpa using ih others (before ++ [item.stripNulls]))

/-- The members of an object are stripped one after the other, behind those that have been. -/
theorem steps_stripMembers {members : List (String × Json)}
    (each : ∀ m ∈ members, ReflTransGen DropsNull m.2 m.2.stripNulls)
    (before : List (String × Json)) :
    ReflTransGen DropsNull (.object (before ++ members))
      (.object (before ++ stripMembers members)) := by
  induction members generalizing before with
  | nil => exact .refl
  | cons m rest ih =>
    obtain ⟨name, item⟩ := m
    obtain ⟨first, others⟩ := List.forall_mem_cons.mp each
    rw [stripMembers]
    split
    case isTrue null =>
      obtain rfl := isNull_eq_true.mp null
      exact .head .member (ih others before)
    case isFalse =>
      have inside : ReflTransGen DropsNull (.object (before ++ (name, item) :: rest))
          (.object (before ++ (name, item.stripNulls) :: rest)) :=
        first.lift (fun v => Json.object (before ++ (name, v) :: rest)) fun _ _ step =>
          .inMember step
      simpa using inside.trans (by simpa using ih others (before ++ [(name, item.stripNulls)]))

/-- Steps lead from a value to the stripped value. -/
theorem steps_stripNulls (v : Json) : ReflTransGen DropsNull v v.stripNulls := by
  induction v using Json.induction with
  | array items ih => exact steps_stripItems ih []
  | object members ih => exact steps_stripMembers ih []
  | _ => exact .refl

/-! ## Ends -/

theorem nullFree_array {items : List Json} :
    NullFree (.array items) ↔ ∀ item ∈ items, item ≠ .null ∧ item.NullFree := by
  constructor
  · intro free item there
    obtain ⟨index, found⟩ := List.mem_iff_getElem?.mp there
    refine ⟨?_, fun segments _ reaches => free _ (List.cons_ne_nil _ _) (.item found reaches)⟩
    rintro rfl
    exact free _ (List.cons_ne_nil _ _) (.item found .here)
  · rintro each segments below reaches
    cases reaches with
    | @item _ _ item segments _ found reaches =>
      obtain ⟨some, free⟩ := each item (List.mem_of_getElem? found)
      cases segments with
      | nil => cases reaches; exact some rfl
      | cons => exact free _ (List.cons_ne_nil _ _) reaches

theorem nullFree_object {members : List (String × Json)} :
    NullFree (.object members) ↔ ∀ m ∈ members, m.2 ≠ .null ∧ m.2.NullFree := by
  constructor
  · rintro free ⟨name, item⟩ there
    refine ⟨?_, fun segments _ reaches => free _ (List.cons_ne_nil _ _) (.member there reaches)⟩
    rintro rfl
    exact free _ (List.cons_ne_nil _ _) (.member there .here)
  · rintro each segments below reaches
    cases reaches with
    | @member _ _ item segments _ there reaches =>
      obtain ⟨some, free⟩ := each _ there
      cases segments with
      | nil => cases reaches; exact some rfl
      | cons => exact free _ (List.cons_ne_nil _ _) reaches

/-- A leaf has nothing below its root. -/
theorem nullFree_leaf (array : ∀ items, v ≠ .array items)
    (object : ∀ members, v ≠ .object members) : v.NullFree := by
  rintro segments below reaches
  cases reaches with
  | here => exact below rfl
  | member => exact object _ rfl
  | item => exact array _ rfl

theorem nullFree_stripNulls (v : Json) : v.stripNulls.NullFree := by
  induction v using Json.induction with
  | array items ih =>
    refine nullFree_array.mpr fun w there => ?_
    obtain ⟨item, mem, some, rfl⟩ := mem_stripItems.mp there
    exact ⟨mt stripNulls_eq_null.mp some, ih item mem⟩
  | object members ih =>
    refine nullFree_object.mpr fun m there => ?_
    obtain ⟨item, mem, some, stripped⟩ := mem_stripMembers.mp there
    rw [← stripped]
    exact ⟨mt stripNulls_eq_null.mp some, ih _ mem⟩
  | _ => exact nullFree_leaf nofun nofun

/-- Where nothing is to be dropped, nothing is changed. -/
theorem stripNulls_of_nullFree (free : v.NullFree) : v.stripNulls = v := by
  induction v using Json.induction with
  | array items ih =>
    rw [nullFree_array] at free
    have all : items.filter (fun item => !item.isNull) = items :=
      List.filter_eq_self.mpr fun item mem => by simp [isNull_eq_false.mpr (free item mem).1]
    rw [stripNulls, stripItems_eq, all,
      List.map_congr_left fun item mem => ih item mem (free item mem).2, List.map_id']
  | object members ih =>
    rw [nullFree_object] at free
    have all : members.filter (fun m => !m.2.isNull) = members :=
      List.filter_eq_self.mpr fun m mem => by simp [isNull_eq_false.mpr (free m mem).1]
    have same : members.map (fun m => (m.1, m.2.stripNulls)) = members.map id :=
      List.map_congr_left fun m mem => Prod.ext rfl (ih m mem (free m mem).2)
    rw [stripNulls, stripMembers_eq, all, same, List.map_id]
  | _ => rfl

/-- **Stripping drops exactly the nulls.** For every value: no `null` stands below the root of the
stripped value; dropping one `null` below the root after the other leads to it, with all else left
where it is, and in whatever order this is done nothing else is left in the end; it is the value
itself if and only if no `null` stood below the root before; and stripping once more changes
nothing. -/
theorem stripNulls_exact (v : Json) :
    v.stripNulls.NullFree ∧
    ReflTransGen DropsNull v v.stripNulls ∧
    (∀ w, ReflTransGen DropsNull v w → w.NullFree → w = v.stripNulls) ∧
    (v.stripNulls = v ↔ v.NullFree) ∧
    v.stripNulls.stripNulls = v.stripNulls := by
  have free := nullFree_stripNulls v
  refine ⟨free, steps_stripNulls v, fun w steps ends => ?unique, ⟨fun same => ?_, ?_⟩, ?_⟩
  case unique => rw [stripNulls_eq_of_steps steps, stripNulls_of_nullFree ends]
  · exact same ▸ free
  · exact stripNulls_of_nullFree
  · exact stripNulls_of_nullFree free

/-- Nulls at several depths, and what is left. -/
example :
    stripNulls (.object [("a", .null), ("b", .array [.null, .object [("c", .null)], .bool true])]) =
      .object [("b", .array [.object [], .bool true])] := by
  rfl

end SchemaDialogue.Json
