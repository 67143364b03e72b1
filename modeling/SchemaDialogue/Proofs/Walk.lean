import SchemaDialogue.Interface.Graph
import SchemaDialogue.Proofs.Entries

/-!
# What the walk declares

A walk that meets no error declares everything it comes to:

* **errors**: they only grow along the walk (`Walk.errors_of_run`);
* **invariant**: `Walk.Sound`, kept by each step that meets no error (`Walk.Sound.declare`) and so
  by the run (`Walk.Sound.run`);
* **result**: the root and all that is referred to are declared, each under a name of its own
  (`Graph.complete_of_errors`).
-/

namespace SchemaDialogue

namespace Graph

namespace Walk

variable {source : Registry} {root key : TypeKey} {pending visited keys : List TypeKey} {w : Walk}

/-! ## Steps without errors -/

theorem mem_enqueue :
    key ∈ enqueue visited pending keys ↔ key ∈ pending ∨ key ∈ keys ∧ key ∉ visited := by
  unfold enqueue
  induction keys generalizing pending with
  | nil => simp
  | cons k rest ih =>
    rw [List.foldl_cons, ih, List.mem_cons]
    by_cases hk : k ∈ visited ∨ k ∈ pending
    · rw [if_pos hk]
      constructor
      · rintro (h | ⟨h, fresh⟩)
        · exact .inl h
        · exact .inr ⟨.inr h, fresh⟩
      · rintro (h | ⟨rfl | h, fresh⟩)
        · exact .inl h
        · exact .inl (hk.resolve_left fresh)
        · exact .inr ⟨h, fresh⟩
    · rw [if_neg hk, List.mem_append, List.mem_singleton]
      constructor
      · rintro ((h | rfl) | ⟨h, fresh⟩)
        · exact .inl h
        · exact .inr ⟨.inl rfl, fun seen => hk (.inl seen)⟩
        · exact .inr ⟨.inr h, fresh⟩
      · rintro (h | ⟨rfl | h, fresh⟩)
        · exact .inl (.inl h)
        · exact .inl (.inr rfl)
        · exact .inr ⟨h, fresh⟩

/-- A key that is declared without an error: there was none before, its own declaration has none,
and its name was not taken. -/
theorem declare_of_errors (h : (w.declare source key).graph.errors = []) :
    w.graph.errors = [] ∧ source.errors key = [] ∧
      w.names.find? (source.declaration key).name = none ∧
      w.declare source key =
        { visited := key :: w.visited
          names := w.names ++ [((source.declaration key).name, key)]
          graph := ⟨w.graph.declarations ++ [(key, source.declaration key)], []⟩ } := by
  unfold declare at h ⊢
  dsimp only at h ⊢
  cases taken : w.names.find? (source.declaration key).name with
  | some owner =>
    rw [taken] at h
    simp at h
  | none =>
    rw [taken] at h
    obtain ⟨before, own⟩ := List.append_eq_nil_iff.mp h
    refine ⟨before, own, rfl, ?_⟩
    simp only [before, own, List.append_nil]

/-- Errors stay: a run without errors starts from a walk without errors. -/
theorem errors_of_run (h : (run source pending w).graph.errors = []) : w.graph.errors = [] := by
  induction pending, w using run.induct source with
  | case1 w =>
    rw [run] at h
    exact h
  | case2 w key rest fresh described ih =>
    rw [run, dif_pos fresh, dif_pos described] at h
    exact (declare_of_errors (ih h)).1
  | case3 w key rest fresh undescribed ih =>
    rw [run, dif_pos fresh, dif_neg undescribed] at h
    exact (declare_of_errors (ih h)).1
  | case4 w key rest seen ih =>
    rw [run, dif_neg seen] at h
    exact ih h

/-! ## The invariant -/

/-- What holds of a walk that has met no error. -/
structure Sound (source : Registry) (root : TypeKey) (pending : List TypeKey) (w : Walk) :
    Prop where
  root : root ∈ w.visited ∨ root ∈ pending
  /-- What has been visited is declared. -/
  declared : ∀ k ∈ w.visited, (k, source.declaration k) ∈ w.graph.declarations
  /-- Nothing else is declared. -/
  visited : ∀ p ∈ w.graph.declarations, p.1 ∈ w.visited ∧ p.2 = source.declaration p.1
  errors : ∀ k ∈ w.visited, source.errors k = []
  /-- What has been visited refers to what has been visited or is waiting. -/
  references : ∀ k ∈ w.visited, ∀ k' ∈ source.references k, k' ∈ w.visited ∨ k' ∈ pending
  /-- The names with an owner are those of the declarations. -/
  names : w.names.keys = w.graph.list.map Declaration.name
  distinct : (w.graph.list.map Declaration.name).Nodup

theorem Sound.start : Sound source root [root] {} where
  root := .inr (.head _)
  declared _ h := by cases h
  visited _ h := by cases h
  errors _ h := by cases h
  references _ h := by cases h
  names := rfl
  distinct := List.nodup_nil

/-- A key that has been visited need not wait. -/
theorem Sound.drop (h : Sound source root (key :: pending) w) (seen : key ∈ w.visited) :
    Sound source root pending w := by
  have still : ∀ k, k ∈ w.visited ∨ k ∈ key :: pending → k ∈ w.visited ∨ k ∈ pending := by
    rintro k (hk | hk)
    · exact .inl hk
    · rcases List.mem_cons.mp hk with rfl | hk
      · exact .inl seen
      · exact .inr hk
  exact { h with
    root := still root h.root
    references := fun k hk k' hk' => still k' (h.references k hk k' hk') }

/-- A step without errors keeps the invariant; what the key refers to waits. -/
theorem Sound.declare (h : Sound source root (key :: pending) w)
    (ok : (w.declare source key).graph.errors = []) :
    Sound source root (enqueue (key :: w.visited) pending (source.references key))
      (w.declare source key) := by
  obtain ⟨_, own, free, shape⟩ := declare_of_errors ok
  rw [shape]
  -- what was visited or waiting still is
  have still : ∀ k, k ∈ w.visited ∨ k ∈ key :: pending → k ∈ key :: w.visited ∨
      k ∈ enqueue (key :: w.visited) pending (source.references key) := by
    rintro k (hk | hk)
    · exact .inl (.tail _ hk)
    · rcases List.mem_cons.mp hk with rfl | hk
      · exact .inl (.head _)
      · exact .inr (mem_enqueue.mpr (.inl hk))
  have fresh : (source.declaration key).name ∉ w.graph.list.map Declaration.name := by
    rw [← h.names]
    exact Entries.find?_eq_none.mp free
  have list : (Graph.list ⟨w.graph.declarations ++ [(key, source.declaration key)], []⟩).map
      Declaration.name = w.graph.list.map Declaration.name ++ [(source.declaration key).name] := by
    simp [Graph.list]
  refine ⟨still root h.root, ?_, ?_, ?_, ?_, ?_, ?_⟩
  · intro k hk
    rcases List.mem_cons.mp hk with rfl | hk
    · exact List.mem_append_right _ (.head _)
    · exact List.mem_append_left _ (h.declared k hk)
  · intro p hp
    rcases List.mem_append.mp hp with hp | hp
    · exact ⟨.tail _ (h.visited p hp).1, (h.visited p hp).2⟩
    · rw [List.mem_singleton.mp hp]
      exact ⟨.head _, rfl⟩
  · intro k hk
    rcases List.mem_cons.mp hk with rfl | hk
    · exact own
    · exact h.errors k hk
  · intro k hk k' hk'
    rcases List.mem_cons.mp hk with rfl | hk
    · by_cases seen : k' ∈ k :: w.visited
      · exact .inl seen
      · exact .inr (mem_enqueue.mpr (.inr ⟨hk', seen⟩))
    · exact still k' (h.references k hk k' hk')
  · rw [list, ← h.names]
    simp [Entries.keys]
  · rw [list, List.nodup_append]
    refine ⟨h.distinct, by simp, ?_⟩
    intro a ha b hb e
    rw [List.mem_singleton.mp hb] at e
    exact fresh (e ▸ ha)

/-- The declaration of an undescribed key is an error. -/
theorem errors_ne_nil_of_not_mem_keys (h : key ∉ source.keys) : source.errors key ≠ [] := by
  have undescribed : source.lookup key = none := Entries.find?_eq_none.mpr h
  unfold Registry.errors
  rw [undescribed]
  exact List.cons_ne_nil _ _

/-- A run without errors keeps the invariant, and nothing waits after it. -/
theorem Sound.run (h : Sound source root pending w)
    (ok : (run source pending w).graph.errors = []) :
    Sound source root [] (Walk.run source pending w) := by
  -- along the recursion of the run; an error in a step would still be there at the end
  induction pending, w using run.induct source with
  | case1 w =>
    rw [Walk.run]
    exact h
  | case2 w key rest fresh described ih =>
    rw [Walk.run, dif_pos fresh, dif_pos described] at ok ⊢
    exact ih (h.declare (errors_of_run ok)) ok
  | case3 w key rest fresh undescribed ih =>
    rw [Walk.run, dif_pos fresh, dif_neg undescribed] at ok
    obtain ⟨_, own, _⟩ := declare_of_errors (errors_of_run ok)
    exact absurd own (errors_ne_nil_of_not_mem_keys undescribed)
  | case4 w key rest seen ih =>
    rw [Walk.run, dif_neg seen] at ok ⊢
    exact ih (h.drop (Decidable.not_not.mp seen)) ok

end Walk

/-! ## Complete graphs -/

/-- The graph declares what its declarations refer to, under the names that references have. -/
structure Complete (source : Registry) (g : Graph) : Prop where
  errors : ∀ k ∈ g.declarations.keys, source.errors k = []
  references : ∀ k ∈ g.declarations.keys, ∀ k' ∈ source.references k, k' ∈ g.declarations.keys
  declaration : ∀ k ∈ g.declarations.keys,
    g.list.find? (·.name = (source.declaration k).name) = some (source.declaration k)

/-- A graph that is built without errors is complete and declares the root. -/
theorem complete_of_errors {source : Registry} {root : TypeKey}
    (ok : (build source root).errors = []) :
    Complete source (build source root) ∧ root ∈ (build source root).declarations.keys := by
  have sound : Walk.Sound source root [] (Walk.run source [root] {}) := Walk.Sound.start.run ok
  have declared : ∀ k, k ∈ (build source root).declarations.keys ↔
      k ∈ (Walk.run source [root] {}).visited := by
    intro k
    unfold Entries.keys
    rw [List.mem_map]
    constructor
    · rintro ⟨p, hp, rfl⟩
      exact (sound.visited p hp).1
    · exact fun hk => ⟨_, sound.declared k hk, rfl⟩
  refine ⟨⟨?_, ?_, ?_⟩, ?_⟩
  · exact fun k hk => sound.errors k ((declared k).mp hk)
  · intro k hk k' hk'
    have := sound.references k ((declared k).mp hk) k' hk'
    exact (declared k').mpr (this.resolve_right (List.not_mem_nil))
  · intro k hk
    refine find?_of_nodup ?_ sound.distinct
    exact List.mem_map_of_mem (sound.declared k ((declared k).mp hk))
  · exact (declared root).mpr (sound.root.resolve_right List.not_mem_nil)

/-- The graph of a root that refers to nothing. -/
theorem build_of_no_references {source : Registry} {root : TypeKey}
    (none : source.references root = []) :
    build source root = ⟨[(root, source.declaration root)], source.errors root⟩ := by
  have alone : Walk.run source [root] {} = Walk.declare source root {} := by
    rw [Walk.run, dif_pos List.not_mem_nil, none]
    split <;> exact Walk.run.eq_1 source _
  rw [build, alone]
  rfl

end Graph

end SchemaDialogue
