import SchemaDialogue.Proofs.Enumeration

/-!
# Slots

The walk keeps the keys that it has visited apart from the declarations. This file has the walk with
a slot for each key instead: a slot is reserved before the definition of its key is read, so that a
type that mentions itself does not wait for itself, and settled afterwards.

Both walks build the same graph, and no slot is left reserved (`Slots.graph_run`):

* **invariant**: the slots say what the walk knows (`Slots.Tracks`);
* **step**: to reserve and to settle a slot is to declare its key (`Tracks.declare`);
* **run**: `Tracks.run`.
-/

namespace SchemaDialogue

namespace Entries

variable {α : Type} {entries : Entries α} {key : String} {value : α}

theorem insert_of_not_mem (new : key ∉ entries.keys) :
    entries.insert key value = entries ++ [(key, value)] := by
  induction entries with
  | nil => rfl
  | cons entry rest ih =>
    obtain ⟨other, new⟩ := List.ne_and_not_mem_of_not_mem_cons new
    rw [insert, if_neg (Ne.symm other), ih new, List.cons_append]

/-- A value that has just been added is replaced where it stands. -/
theorem insert_append_singleton (new : key ∉ entries.keys) (before : α) :
    insert key value (entries ++ [(key, before)]) = entries ++ [(key, value)] := by
  induction entries with
  | nil => exact if_pos rfl
  | cons entry rest ih =>
    obtain ⟨other, new⟩ := List.ne_and_not_mem_of_not_mem_cons new
    rw [List.cons_append, insert, if_neg (Ne.symm other), ih new, List.cons_append]

end Entries

namespace Graph

/-- What has become of a key that was taken from the queue. -/
inductive Slot where
  /-- Its definition is being read. -/
  | reserved
  | declared (declaration : Declaration)
  /-- Its name was taken. -/
  | shadowed

/-- The declaration in a slot. -/
def Slot.declaration? : Slot → Option Declaration
  | reserved => none
  | declared declaration => some declaration
  | shadowed => none

/-- A walk with slots under way. -/
structure Slots where
  slots : Entries Slot := []
  names : Entries TypeKey := []
  errors : List GraphError := []

namespace Slots

/-- Reserve the slot of a key. -/
def reserve (key : TypeKey) (s : Slots) : Slots :=
  { s with slots := s.slots.insert key .reserved }

/-- Settle the slot of a key whose definition has been read. -/
def settle (source : Registry) (key : TypeKey) (s : Slots) : Slots :=
  let declaration := source.declaration key
  let errors := s.errors ++ source.errors key
  match s.names.find? declaration.name with
  | some owner =>
    { slots := s.slots.insert key .shadowed
      names := s.names
      errors := errors ++ [.nameCollision declaration.name owner key] }
  | none =>
    { slots := s.slots.insert key (.declared declaration)
      names := s.names.insert declaration.name key
      errors := errors }

variable {source : Registry} {key : TypeKey} {pending : List TypeKey} {s : Slots} {w : Walk}

/-- What settling the slot of a new key makes of the walk. -/
theorem settle_reserve (new : key ∉ s.slots.keys) :
    (s.reserve key).settle source key =
      match s.names.find? (source.declaration key).name with
      | some owner =>
        { slots := s.slots ++ [(key, .shadowed)]
          names := s.names
          errors := s.errors ++ source.errors key ++
            [.nameCollision (source.declaration key).name owner key] }
      | none =>
        { slots := s.slots ++ [(key, .declared (source.declaration key))]
          names := s.names ++ [((source.declaration key).name, key)]
          errors := s.errors ++ source.errors key } := by
  unfold settle reserve
  dsimp only
  split
  · rw [Entries.insert_of_not_mem new, Entries.insert_append_singleton new]
  · rename_i free
    rw [Entries.insert_of_not_mem new, Entries.insert_append_singleton new,
      Entries.insert_of_not_mem (Entries.find?_eq_none.mp free)]

theorem mem_keys_settle (new : key ∉ s.slots.keys) (k : TypeKey) :
    k ∈ ((s.reserve key).settle source key).slots.keys ↔ k ∈ key :: s.slots.keys := by
  rw [settle_reserve new]
  split <;> simp [Entries.keys, or_comm]

theorem mem_keys_reserve (new : key ∉ s.slots.keys) (k : TypeKey) :
    k ∈ (s.reserve key).slots.keys ↔ k ∈ key :: s.slots.keys := by
  unfold reserve
  rw [Entries.insert_of_not_mem new]
  simp [Entries.keys, or_comm]

theorem unvisited_settle (new : key ∉ s.slots.keys) :
    source.unvisited ((s.reserve key).settle source key).slots.keys =
      source.unvisited (key :: s.slots.keys) := by
  unfold Registry.unvisited
  refine List.countP_congr fun k _ => ?_
  rw [decide_eq_true_iff, decide_eq_true_iff, mem_keys_settle new]

/-- Take the keys from the queue one after the other. What the definition of a key refers to waits,
unless it has a slot already. -/
def run (source : Registry) : List TypeKey → Slots → Slots
  | [], s => s
  | key :: rest, s =>
    if _ : key ∈ s.slots.keys then run source rest s
    else
      run source (Walk.enqueue (s.reserve key).slots.keys rest (source.references key))
        ((s.reserve key).settle source key)
termination_by pending s => (source.unvisited s.slots.keys, pending.length)
decreasing_by
  · exact .right _ (Nat.lt_succ_self _)
  · rw [unvisited_settle ‹_›]
    by_cases described : key ∈ source.keys
    · exact .left _ _ (Registry.unvisited_lt described ‹_›)
    · rw [Registry.references_of_undescribed described]
      exact lex_of_le (Registry.unvisited_cons_le source key _) (Nat.lt_succ_self _)

/-- The graph of the declarations in the slots. -/
def graph (s : Slots) : Graph :=
  ⟨s.slots.filterMap fun p => p.2.declaration?.map (p.1, ·), s.errors⟩

/-- The slots say what the walk knows, and none is reserved. -/
structure Tracks (s : Slots) (w : Walk) : Prop where
  keys : ∀ k, k ∈ s.slots.keys ↔ k ∈ w.visited
  names : s.names = w.names
  graph : s.graph = w.graph
  settled : ∀ p ∈ s.slots, p.2 ≠ .reserved

theorem Tracks.start : Tracks {} {} :=
  ⟨fun _ => Iff.rfl, rfl, rfl, fun _ h => by cases h⟩

/-- To reserve and to settle the slot of a key is to declare the key. -/
theorem Tracks.declare (h : Tracks s w) (new : key ∉ s.slots.keys) :
    Tracks ((s.reserve key).settle source key) (w.declare source key) := by
  have keys : ∀ k, k ∈ ((s.reserve key).settle source key).slots.keys ↔
      k ∈ (w.declare source key).visited := by
    intro k
    rw [mem_keys_settle new, Walk.visited_declare, List.mem_cons, List.mem_cons, h.keys]
  have errors : s.errors = w.graph.errors := congrArg Graph.errors h.graph
  have declarations : (s.slots.filterMap fun p => p.2.declaration?.map (p.1, ·)) =
      w.graph.declarations := congrArg Graph.declarations h.graph
  have settled : ∀ slot, slot ≠ .reserved → ∀ p ∈ s.slots ++ [(key, slot)], p.2 ≠ .reserved := by
    intro slot kept p mem
    rcases List.mem_append.mp mem with mem | mem
    · exact h.settled p mem
    · rw [List.mem_singleton.mp mem]
      exact kept
  rw [settle_reserve new] at keys ⊢
  unfold Walk.declare at keys ⊢
  dsimp only at keys ⊢
  rw [← h.names, ← errors, ← declarations] at keys ⊢
  cases taken : s.names.find? (source.declaration key).name with
  | some owner =>
    rw [taken] at keys
    refine ⟨keys, rfl, ?_, settled _ (by simp)⟩
    rw [Slots.graph, List.filterMap_append]
    exact congrArg (Graph.mk · _) (List.append_nil _)
  | none =>
    rw [taken] at keys
    refine ⟨keys, rfl, ?_, settled _ (by simp)⟩
    rw [Slots.graph, List.filterMap_append]
    rfl

/-- The same keys wait. -/
theorem Tracks.enqueue (h : Tracks s w) (new : key ∉ s.slots.keys) (keys : List TypeKey) :
    Walk.enqueue (s.reserve key).slots.keys pending keys =
      Walk.enqueue (key :: w.visited) pending keys := by
  rw [Walk.enqueue_eq, Walk.enqueue_eq]
  refine congrArg (pending ++ ·) (unseen_congr fun k => ?_)
  rw [List.mem_append, List.mem_append, mem_keys_reserve new, List.mem_cons, List.mem_cons, h.keys]

/-- The walk with slots keeps track of the walk. -/
theorem Tracks.run (h : Tracks s w) :
    Tracks (Slots.run source pending s) (Walk.run source pending w) := by
  induction pending, w using Walk.run.induct source generalizing s with
  | case1 w =>
    rw [Slots.run, Walk.run]
    exact h
  | case2 key rest w fresh described ih =>
    have new : key ∉ s.slots.keys := fun h' => fresh ((h.keys key).mp h')
    rw [Slots.run, Walk.run, dif_neg new, dif_pos fresh, dif_pos described, h.enqueue new]
    exact ih (h.declare new)
  | case3 key rest w fresh undescribed ih =>
    have new : key ∉ s.slots.keys := fun h' => fresh ((h.keys key).mp h')
    rw [Slots.run, Walk.run, dif_neg new, dif_pos fresh, dif_neg undescribed,
      Registry.references_of_undescribed undescribed]
    exact ih (h.declare new)
  | case4 key rest w visited ih =>
    rw [Slots.run, Walk.run, dif_neg visited, dif_pos ((h.keys key).mpr (not_not.mp visited))]
    exact ih h

/-- The walk with slots builds the graph and leaves no slot reserved. -/
theorem graph_run (source : Registry) (root : TypeKey) :
    (Slots.run source [root] {}).graph = build source root ∧
      ∀ p ∈ (Slots.run source [root] {}).slots, p.2 ≠ .reserved := by
  have tracks : Tracks (Slots.run source [root] {}) (Walk.run source [root] {}) := Tracks.start.run
  exact ⟨tracks.graph, tracks.settled⟩

end Slots

end Graph

end SchemaDialogue
