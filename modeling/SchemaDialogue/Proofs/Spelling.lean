import Mathlib.Data.List.Forall2
import SchemaDialogue.Json.Parse

/-!
# Drafts that spell a value

A draft spells a JSON value when its leaves are the leaves of the value, its listings are closed and
its keys are those of the value (`Draft.Spells`). Nothing is said of where it stands. The draft of a
value spells it (`Draft.spells_ofJson`), and what spells a value is read strictly as deep as
arrays and objects may nest (`Draft.value_of_spells`).
-/

namespace SchemaDialogue

namespace Json

/-- Induction over JSON values; it holds of each item and of the value of each member. -/
theorem induction {P : Json → Prop} (null : P .null) (bool : ∀ b, P (.bool b))
    (number : ∀ n, P (.number n)) (string : ∀ s, P (.string s))
    (array : ∀ items, (∀ v ∈ items, P v) → P (.array items))
    (object : ∀ members, (∀ m ∈ members, P m.2) → P (.object members)) (v : Json) : P v := by
  apply Json.rec (motive_1 := P) (motive_2 := fun items => ∀ v ∈ items, P v)
    (motive_3 := fun members => ∀ m ∈ members, P m.2) (motive_4 := fun m => P m.2) null bool number
    string array object
  · exact fun v h => by cases h
  · intro head tail ihh iht v h
    rcases List.mem_cons.mp h with rfl | h
    · exact ihh
    · exact iht v h
  · exact fun m h => by cases h
  · intro head tail ihh iht m h
    rcases List.mem_cons.mp h with rfl | h
    · exact ihh
    · exact iht m h
  · exact fun key value ih => ih

/-! ## Depth -/

mutual

/-- How deep arrays and objects nest in a value. -/
def depth : Json → Nat
  | array items => depthOfItems items + 1
  | object members => depthOfMembers members + 1
  | _ => 0

/-- The greatest depth of an item. -/
def depthOfItems : List Json → Nat
  | [] => 0
  | item :: rest => max item.depth (depthOfItems rest)

/-- The greatest depth of a member. -/
def depthOfMembers : List (String × Json) → Nat
  | [] => 0
  | (_, value) :: rest => max value.depth (depthOfMembers rest)

end

theorem depth_le_depthOfItems {v : Json} {items : List Json} (h : v ∈ items) :
    v.depth ≤ depthOfItems items := by
  induction items with
  | nil => cases h
  | cons first rest ih =>
    rw [depthOfItems]
    rcases List.mem_cons.mp h with rfl | h
    · omega
    · have := ih h
      omega

theorem depth_le_depthOfMembers {key : String} {value : Json} {members : List (String × Json)}
    (h : (key, value) ∈ members) : value.depth ≤ depthOfMembers members := by
  induction members with
  | nil => cases h
  | cons first rest ih =>
    obtain ⟨k, v⟩ := first
    rw [depthOfMembers]
    rcases List.mem_cons.mp h with same | h
    · cases same
      omega
    · have := ih h
      omega

end Json

namespace Draft

/-- A value of this depth may be read. -/
def Nesting.Allows (nesting : Nesting) (depth : Nat) : Prop := ∀ limit ∈ nesting, depth < limit

theorem Nesting.allows_none (depth : Nat) : Nesting.Allows none depth := fun _ h => by cases h

theorem Nesting.Allows.mono {nesting : Nesting} {depth less : Nat} (h : nesting.Allows depth)
    (le : less ≤ depth) : nesting.Allows less :=
  fun limit mem => Nat.lt_of_le_of_lt le (h limit mem)

/-- What is one level deeper may be read one level further in. -/
theorem Nesting.Allows.descend {nesting : Nesting} {depth : Nat}
    (h : nesting.Allows (depth + 1)) :
    ∃ deeper : Nesting,
      (∀ opening, Draft.descend opening nesting = .ok deeper) ∧ deeper.Allows depth := by
  cases nesting with
  | none => exact ⟨none, fun _ => rfl, Nesting.allows_none depth⟩
  | some limit =>
    have below : depth + 1 < limit := h limit rfl
    refine ⟨some (limit - 1), fun _ => if_neg (by omega), ?_⟩
    rintro _ ⟨⟩
    omega

/-! ## Spelling -/

mutual

/-- The draft holds this value, and nothing is wrong with it. -/
inductive Spells : Draft → Json → Prop
  | null {start peeked stop after} : Spells (.leaf ⟨.word .null, start, peeked, stop⟩ after) .null
  | true {start peeked stop after} :
    Spells (.leaf ⟨.word .true, start, peeked, stop⟩ after) (.bool true)
  | false {start peeked stop after} :
    Spells (.leaf ⟨.word .false, start, peeked, stop⟩ after) (.bool false)
  | number {n start peeked stop after} :
    Spells (.leaf ⟨.numeral (.ok n), start, peeked, stop⟩ after) (.number n)
  | string {s start peeked stop after} :
    Spells (.leaf ⟨.text (.ok s), start, peeked, stop⟩ after) (.string s)
  | array {opening drafts closing after items} :
    List.Forall₂ Spells drafts items →
      Spells (.array opening drafts (.closed closing) after) (.array items)
  | object {opening drafts closing after members} :
    List.Forall₂ SpellsMember drafts members →
      Spells (.object opening drafts (.closed closing) after) (.object members)

/-- A key and the draft after it hold this member. -/
inductive SpellsMember : DraftKey × Draft → String × Json → Prop
  | mk {key value draft start peeked stop after} :
    Spells draft value →
      SpellsMember (⟨⟨.text (.ok key), start, peeked, stop⟩, after⟩, draft) (key, value)

end

/-- The draft of a value spells it. -/
theorem spells_ofJson (v : Json) : (ofJson v).Spells v := by
  induction v using Json.induction with
  | null => exact .null
  | bool b =>
    cases b with
    | true => exact .true
    | false => exact .false
  | number n => exact .number
  | string s => exact .string
  | array items ih =>
    rw [ofJson]
    refine .array ?_
    induction items with
    | nil => exact .nil
    | cons v rest each =>
      rw [ofItems]
      exact .cons (ih v (.head _)) (each fun w h => ih w (.tail _ h))
  | object members ih =>
    rw [ofJson]
    refine .object ?_
    induction members with
    | nil => exact .nil
    | cons m rest each =>
      obtain ⟨key, value⟩ := m
      rw [ofMembers]
      exact .cons (.mk (ih (key, value) (.head _))) (each fun m h => ih m (.tail _ h))

theorem itemValues_of_spells {drafts : List Draft} {items : List Json} {nesting : Nesting}
    (each : List.Forall₂ Spells drafts items)
    (read : ∀ v ∈ items, ∀ d : Draft, d.Spells v → ∃ w, d.value nesting = .ok w) :
    ∃ ws, itemValues nesting drafts = .ok ws := by
  induction each with
  | nil => exact ⟨[], rfl⟩
  | @cons d v drafts items spells _ ih =>
    obtain ⟨w, first⟩ := read v (.head _) d spells
    obtain ⟨ws, others⟩ := ih fun v mem => read v (.tail _ mem)
    refine ⟨w :: ws, ?_⟩
    rw [itemValues, first, others]
    rfl

theorem memberValues_of_spells {drafts : List (DraftKey × Draft)} {members : List (String × Json)}
    {nesting : Nesting} (each : List.Forall₂ SpellsMember drafts members)
    (read : ∀ m ∈ members, ∀ d : Draft, d.Spells m.2 → ∃ w, d.value nesting = .ok w) :
    ∃ ws, memberValues nesting drafts = .ok ws := by
  induction each with
  | nil => exact ⟨[], rfl⟩
  | @cons e m drafts members spells _ ih =>
    cases spells with
    | @mk key v d _ _ _ _ spells =>
    obtain ⟨w, first⟩ := read (key, v) (.head _) d spells
    obtain ⟨ws, others⟩ := ih fun m mem => read m (.tail _ mem)
    refine ⟨(key, w) :: ws, ?_⟩
    rw [memberValues, first, others]
    rfl

/-- What spells a value is read strictly. -/
theorem value_of_spells {v : Json} {d : Draft} (spells : d.Spells v) {nesting : Nesting}
    (allowed : nesting.Allows v.depth) : ∃ w, d.value nesting = .ok w := by
  induction v using Json.induction generalizing d nesting with
  | null =>
    cases spells
    exact ⟨_, rfl⟩
  | bool b => cases spells <;> exact ⟨_, rfl⟩
  | number n =>
    cases spells
    exact ⟨_, rfl⟩
  | string s =>
    cases spells
    exact ⟨_, rfl⟩
  | array items ih =>
    cases spells with
    | array each =>
    obtain ⟨deeper, descended, within⟩ := allowed.descend
    obtain ⟨ws, values⟩ := itemValues_of_spells each fun v mem d spells =>
      ih v mem spells (within.mono (Json.depth_le_depthOfItems mem))
    refine ⟨.array ws, ?_⟩
    rw [value, descended]
    show (itemValues deeper _ >>= _) = _
    rw [values]
    rfl
  | object members ih =>
    cases spells with
    | object each =>
    obtain ⟨deeper, descended, within⟩ := allowed.descend
    obtain ⟨ws, values⟩ := memberValues_of_spells each fun m mem d spells =>
      ih m mem spells (within.mono (Json.depth_le_depthOfMembers mem))
    refine ⟨.object (Entries.ofList ws), ?_⟩
    rw [value, descended]
    show (memberValues deeper _ >>= _) = _
    rw [values]
    rfl

end Draft

end SchemaDialogue
