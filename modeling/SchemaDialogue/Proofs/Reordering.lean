import SchemaDialogue.Proofs.Entries
import SchemaDialogue.Proofs.Verdict

/-!
# Values up to the order of members

Two values are equal up to the order of members when the members of some objects in them stand in
another order (`Json.Reordered`). Such values have the same items in the same places, and objects
among them the same members, whose values are again equal up to the order of members
(`Json.Matched`).

What a condition says about the parts of one value it then says about those of the other, for a
condition on arrays (`Json.Reordered.exists_array_iff`) and for one on objects
(`Json.Reordered.exists_object_iff`).
-/

namespace SchemaDialogue

/-! ## Conditions on parts that correspond -/

section

variable {α β : Type} {R : α → β → Prop} {P : α → Prop} {Q : β → Prop}

theorem forall_mem_iff_of_forall₂ {l : List α} {l' : List β} (h : List.Forall₂ R l l')
    (each : ∀ a ∈ l, ∀ b, R a b → (P a ↔ Q b)) : (∀ a ∈ l, P a) ↔ ∀ b ∈ l', Q b := by
  induction h with
  | nil => exact iff_of_true (List.forall_mem_nil P) (List.forall_mem_nil Q)
  | @cons a b l l' hab _ ih =>
    rw [List.forall_mem_cons, List.forall_mem_cons, each a (.head _) b hab,
      ih fun a mem => each a (.tail _ mem)]

theorem exists_mem_of_forall₂ {l : List α} {l' : List β} (h : List.Forall₂ R l l') {a : α}
    (mem : a ∈ l) : ∃ b ∈ l', R a b := by
  induction h with
  | nil => cases mem
  | @cons a' b l l' hab _ ih =>
    rcases List.mem_cons.mp mem with rfl | mem
    · exact ⟨b, .head _, hab⟩
    · obtain ⟨b', hb', hab'⟩ := ih mem
      exact ⟨b', .tail _ hb', hab'⟩

theorem exists_mem_iff_of_forall₂ {l : List α} {l' : List β} (h : List.Forall₂ R l l')
    (each : ∀ a ∈ l, ∀ b, R a b → (P a ↔ Q b)) : (∃ a ∈ l, P a) ↔ ∃ b ∈ l', Q b := by
  have none := forall_mem_iff_of_forall₂ (P := fun a => ¬P a) (Q := fun b => ¬Q b) h
    fun a mem b hab => not_congr (each a mem b hab)
  simpa using not_congr none

theorem forall₂_zip_zip {γ δ : Type} {S : γ → δ → Prop} {l : List α} {l' : List β} {m : List γ}
    {m' : List δ} (h : List.Forall₂ R l l') (k : List.Forall₂ S m m') :
    List.Forall₂ (fun p q => R p.1 q.1 ∧ S p.2 q.2) (l.zip m) (l'.zip m') := by
  induction h generalizing m m' with
  | nil => exact .nil
  | cons hab _ ih =>
    cases k with
    | nil => exact .nil
    | cons hcd k => exact .cons ⟨hab, hcd⟩ (ih k)

theorem forall_some_iff_of_rel {o : Option α} {o' : Option β} (h : Option.Rel R o o')
    (each : ∀ a b, o = some a → R a b → (P a ↔ Q b)) :
    (∀ a, o = some a → P a) ↔ ∀ b, o' = some b → Q b := by
  cases h with
  | none => exact iff_of_true nofun nofun
  | some hab =>
    simp only [Option.some.injEq, forall_eq']
    exact each _ _ rfl hab

theorem exists_some_iff_of_rel {o : Option α} {o' : Option β} (h : Option.Rel R o o')
    (each : ∀ a b, o = some a → R a b → (P a ↔ Q b)) :
    (∃ a, o = some a ∧ P a) ↔ ∃ b, o' = some b ∧ Q b := by
  cases h with
  | none => exact iff_of_false (by simp) (by simp)
  | some hab =>
    simp only [Option.some.injEq, exists_eq_left']
    exact each _ _ rfl hab

theorem eq_none_iff_of_rel {o : Option α} {o' : Option β} (h : Option.Rel R o o') :
    o = none ↔ o' = none := by
  cases h <;> simp

end

namespace Json

/-! ## The relation -/

/-- Equal up to the order of members, in objects whose members have names of their own. -/
inductive Reordered : Json → Json → Prop
  | refl (v : Json) : Reordered v v
  | array {items items' : List Json} : items.length = items'.length →
      (∀ p ∈ items.zip items', Reordered p.1 p.2) → Reordered (.array items) (.array items')
  /-- Members of the same names one by one, and these then in another order. -/
  | object {members mid members' : List (String × Json)} : (Entries.keys members).Nodup →
      members.length = mid.length → (∀ p ∈ members.zip mid, p.1.1 = p.2.1) →
      (∀ p ∈ members.zip mid, Reordered p.1.2 p.2.2) → mid.Perm members' →
      Reordered (.object members) (.object members')

/-- Lists of members that give the same under each name, up to the order of members within. -/
structure Matched (members members' : Entries Json) : Prop where
  find : ∀ name, Option.Rel Reordered (members.find? name) (members'.find? name)
  forth : ∀ name item, (name, item) ∈ members →
    ∃ item', (name, item') ∈ members' ∧ Reordered item item'
  back : ∀ name item', (name, item') ∈ members' →
    ∃ item, (name, item) ∈ members ∧ Reordered item item'

theorem Matched.refl (members : Entries Json) : Matched members members where
  find name := by
    cases members.find? name with
    | none => exact .none
    | some item => exact .some (.refl item)
  forth _ item mem := ⟨item, mem, .refl item⟩
  back _ item mem := ⟨item, mem, .refl item⟩

/-- A condition on all members. -/
theorem Matched.forall_iff {members members' : Entries Json} (h : Matched members members')
    {P Q : String → Json → Prop}
    (each : ∀ name item item', (name, item) ∈ members → Reordered item item' →
      (P name item ↔ Q name item')) :
    (∀ name item, (name, item) ∈ members → P name item) ↔
      ∀ name item, (name, item) ∈ members' → Q name item := by
  constructor
  · intro all name item' mem'
    obtain ⟨item, mem, related⟩ := h.back name item' mem'
    exact (each name item item' mem related).mp (all name item mem)
  · intro all name item mem
    obtain ⟨item', mem', related⟩ := h.forth name item mem
    exact (each name item item' mem related).mpr (all name item' mem')

/-- Where no name is repeated, it is enough that the members are the same. -/
theorem Matched.of_nodup {members members' : Entries Json} (distinct : members.keys.Nodup)
    (distinct' : members'.keys.Nodup)
    (forth : ∀ name item, (name, item) ∈ members →
      ∃ item', (name, item') ∈ members' ∧ Reordered item item')
    (back : ∀ name item', (name, item') ∈ members' →
      ∃ item, (name, item) ∈ members ∧ Reordered item item') : Matched members members' where
  forth := forth
  back := back
  find name := by
    cases found : members.find? name with
    | some item =>
      obtain ⟨item', mem, related⟩ := forth name item (Entries.mem_of_find? found)
      rw [Entries.find?_of_mem distinct' mem]
      exact .some related
    | none =>
      -- a member that only the other list had would come back to this one
      cases found' : members'.find? name with
      | none => exact .none
      | some item' =>
        obtain ⟨item, mem, _⟩ := back name item' (Entries.mem_of_find? found')
        cases found.symm.trans (Entries.find?_of_mem distinct mem)

theorem matched_of_perm {members mid members' : Entries Json} (distinct : members.keys.Nodup)
    (one : List.Forall₂ (fun p q => p.1 = q.1 ∧ Reordered p.2 q.2) members mid)
    (perm : mid.Perm members') : Matched members members' := by
  -- names are kept one by one and then only moved, so they stay distinct
  have names : members.keys = mid.keys := by
    have same : List.Forall₂ (· = ·) members.keys mid.keys := by
      rw [Entries.keys, Entries.keys, List.forall₂_map_left_iff, List.forall₂_map_right_iff]
      exact one.imp fun _ _ h => h.1
    rwa [List.forall₂_eq_eq_eq] at same
  have distinct' : members'.keys.Nodup := by
    rw [names] at distinct
    exact (List.Perm.map (fun p : String × Json => p.1) perm).nodup distinct
  refine .of_nodup distinct distinct' (fun name item mem => ?_) fun name item' mem => ?_
  · obtain ⟨⟨_, item'⟩, mem', rfl, related⟩ := exists_mem_of_forall₂ one mem
    exact ⟨item', perm.mem_iff.mp mem', related⟩
  · obtain ⟨⟨_, item⟩, mem', rfl, related⟩ := exists_mem_of_forall₂ one.flip (perm.mem_iff.mpr mem)
    exact ⟨item, mem', related⟩

namespace Reordered

variable {v w : Json}

/-- Values that are equal up to the order of members are arrays, objects or leaves alike. -/
theorem cases_value (h : v.Reordered w) :
    (∃ items items', v = .array items ∧ w = .array items' ∧ List.Forall₂ Reordered items items') ∨
      (∃ members members', v = .object members ∧ w = .object members' ∧
        Matched members members') ∨
      v = w ∧ (∀ items, v ≠ .array items) ∧ ∀ members, v ≠ .object members := by
  cases h with
  | refl v =>
    cases v with
    | array items => exact .inl ⟨items, items, rfl, rfl, List.forall₂_same.mpr fun _ _ => .refl _⟩
    | object members => exact .inr (.inl ⟨members, members, rfl, rfl, .refl members⟩)
    | _ => exact .inr (.inr ⟨rfl, nofun, nofun⟩)
  | array length each =>
    exact .inl ⟨_, _, rfl, rfl, List.forall₂_iff_zip.mpr ⟨length, fun h => each _ h⟩⟩
  | object distinct length names each perm =>
    refine .inr (.inl ⟨_, _, rfl, rfl, matched_of_perm distinct ?_ perm⟩)
    exact List.forall₂_iff_zip.mpr ⟨length, fun h => ⟨names _ h, each _ h⟩⟩

/-- A condition on arrays. -/
theorem exists_array_iff (h : v.Reordered w) {P Q : List Json → Prop}
    (each : ∀ items items', v = .array items → List.Forall₂ Reordered items items' →
      (P items ↔ Q items')) :
    (∃ items, v = .array items ∧ P items) ↔ ∃ items, w = .array items ∧ Q items := by
  obtain ⟨items, items', rfl, rfl, one⟩ | ⟨members, members', rfl, rfl, _⟩ | ⟨rfl, leaf, _⟩ :=
    h.cases_value
  · simpa using each items items' rfl one
  · simp
  · exact iff_of_false (fun ⟨_, same, _⟩ => leaf _ same) fun ⟨_, same, _⟩ => leaf _ same

/-- A condition on objects. -/
theorem exists_object_iff (h : v.Reordered w) {P Q : Entries Json → Prop}
    (each : ∀ members members', v = .object members → Matched members members' →
      (P members ↔ Q members')) :
    (∃ members, v = .object members ∧ P members) ↔ ∃ members, w = .object members ∧ Q members := by
  obtain ⟨items, items', rfl, rfl, _⟩ | ⟨members, members', rfl, rfl, matched⟩ | ⟨rfl, _, leaf⟩ :=
    h.cases_value
  · simp
  · simpa using each members members' rfl matched
  · exact iff_of_false (fun ⟨_, same, _⟩ => leaf _ same) fun ⟨_, same, _⟩ => leaf _ same

/-- Such values are of the same kinds. -/
theorem admits_eq (h : v.Reordered w) (kind : Kind) : kind.admits v = kind.admits w := by
  obtain ⟨_, _, rfl, rfl, _⟩ | ⟨_, _, rfl, rfl, _⟩ | ⟨rfl, _⟩ := h.cases_value
  · cases kind <;> rfl
  · cases kind <;> rfl
  · rfl

theorem eq_null_iff (h : v.Reordered w) : v = .null ↔ w = .null := by
  obtain ⟨_, _, rfl, rfl, _⟩ | ⟨_, _, rfl, rfl, _⟩ | ⟨rfl, _⟩ := h.cases_value <;> simp

/-- Such values equal the same literals. -/
theorem literal_admits_eq (h : v.Reordered w) (l : Literal) : l.admits v = l.admits w := by
  obtain ⟨_, _, rfl, rfl, _⟩ | ⟨_, _, rfl, rfl, _⟩ | ⟨rfl, _⟩ := h.cases_value
  · cases l <;> rfl
  · cases l <;> rfl
  · rfl

end Reordered

end Json

end SchemaDialogue
