import Mathlib.Data.List.Nodup
import SchemaDialogue.Proofs.Mentions

/-!
# The order of declarations

The declarations of a graph are the breadth-first enumeration from the root, less the keys whose
name an earlier key has (`Graph.declarations_build`).

The enumeration is stated by layers, without a queue: each layer lists what the layer before
mentions, in order of first mention and without what an earlier layer has (`BreadthFirst`). The walk
keeps one queue and adds to it key by key:

* **queue**: what is added to the queue (`Walk.enqueue_eq`);
* **invariant**: in the middle of a layer the queue holds the rest of the layer and what the keys
  before have put into the next one (`Walk.Midway`), and each step keeps this (`Midway.step`,
  `Midway.turn`);
* **run**: so the walk declares one key after the other in the order of the layers
  (`Midway.run`), and each name goes to the first key that has it (`declarations_declareAll`).
-/

namespace SchemaDialogue

/-! ## First mentions -/

/-- The keys that have not been seen, in order and once each. -/
def unseen (seen keys : List TypeKey) : List TypeKey := (keys.filter (· ∉ seen)).eraseDups

section

variable {seen seen' keys : List TypeKey} {key : TypeKey}

theorem mem_unseen : key ∈ unseen seen keys ↔ key ∈ keys ∧ key ∉ seen := by
  rw [unseen, List.mem_eraseDups, List.mem_filter, decide_eq_true_iff]

theorem unseen_congr (same : ∀ k, k ∈ seen ↔ k ∈ seen') : unseen seen keys = unseen seen' keys := by
  have alike : keys.filter (· ∉ seen) = keys.filter (· ∉ seen') :=
    List.filter_congr fun k _ => decide_eq_decide.mpr (not_congr (same k))
  rw [unseen, unseen, alike]

theorem unseen_cons_of_mem (old : key ∈ seen) : unseen seen (key :: keys) = unseen seen keys := by
  rw [unseen, unseen, List.filter_cons_of_neg (by simpa using old)]

theorem unseen_cons_of_not_mem (new : key ∉ seen) :
    unseen seen (key :: keys) = key :: unseen (seen ++ [key]) keys := by
  rw [unseen, unseen, List.filter_cons_of_pos (by simpa using new), List.eraseDups_cons,
    List.filter_filter]
  have alike : keys.filter (fun k => !k == key && decide (k ∉ seen)) =
      keys.filter (· ∉ seen ++ [key]) := by
    refine List.filter_congr fun k _ => ?_
    rw [Bool.eq_iff_iff]
    simp [and_comm]
  rw [alike]

theorem unseen_append (seen keys more : List TypeKey) :
    unseen seen (keys ++ more) = unseen seen keys ++ unseen (seen ++ unseen seen keys) more := by
  induction keys generalizing seen with
  | nil =>
    have nothing : unseen seen [] = [] := rfl
    rw [nothing, List.append_nil, List.nil_append, List.nil_append]
  | cons k rest ih =>
    by_cases old : k ∈ seen
    · rw [List.cons_append, unseen_cons_of_mem old, unseen_cons_of_mem old, ih]
    · rw [List.cons_append, unseen_cons_of_not_mem old, unseen_cons_of_not_mem old, ih,
        List.append_assoc, List.singleton_append, List.cons_append]

theorem nodup_unseen (seen keys : List TypeKey) : (unseen seen keys).Nodup := by
  induction keys generalizing seen with
  | nil => exact List.nodup_nil
  | cons k rest ih =>
    by_cases old : k ∈ seen
    · rw [unseen_cons_of_mem old]
      exact ih seen
    · rw [unseen_cons_of_not_mem old, List.nodup_cons]
      refine ⟨fun again => ?_, ih _⟩
      exact (mem_unseen.mp again).2 (List.mem_append_right _ (.head _))

end

/-! ## Layers -/

/-- `BreadthFirst next seen layer order`: from a layer on, the keys come in this order, `seen` being
the keys of the layers before. -/
inductive BreadthFirst (next : TypeKey → List TypeKey) :
    List TypeKey → List TypeKey → List TypeKey → Prop
  | done {seen} : BreadthFirst next seen [] []
  | layer {seen layer rest} : layer ≠ [] →
      BreadthFirst next (seen ++ layer) (unseen (seen ++ layer) (layer.flatMap next)) rest →
      BreadthFirst next seen layer (layer ++ rest)

section

variable {next : TypeKey → List TypeKey} {seen layer order order' : List TypeKey} {key : TypeKey}

namespace BreadthFirst

/-- There is one order. -/
theorem unique (h : BreadthFirst next seen layer order) (h' : BreadthFirst next seen layer order') :
    order = order' := by
  induction h generalizing order' with
  | done =>
    cases h' with
    | done => rfl
    | layer nonempty _ => exact absurd rfl nonempty
  | layer nonempty _ ih =>
    cases h' with
    | done => exact absurd rfl nonempty
    | layer _ rest => rw [ih rest]

theorem mem_of_mem_layer (h : BreadthFirst next seen layer order) (mem : key ∈ layer) :
    key ∈ order := by
  cases h with
  | done => exact mem
  | layer _ _ => exact List.mem_append_left _ mem

/-- No key comes twice. -/
theorem nodup (h : BreadthFirst next seen layer order) (distinct : (seen ++ layer).Nodup) :
    (seen ++ order).Nodup := by
  induction h with
  | done => exact distinct
  | @layer seen layer rest _ _ ih =>
    rw [← List.append_assoc]
    apply ih
    refine List.nodup_append.mpr ⟨distinct, nodup_unseen _ _, ?_⟩
    rintro k old _ new rfl
    exact (mem_unseen.mp new).2 old

/-- Each key is in the first layer or follows from another key. -/
theorem mem_cases (h : BreadthFirst next seen layer order) (mem : key ∈ order) :
    key ∈ layer ∨ ∃ k ∈ order, key ∈ next k := by
  induction h with
  | done => cases mem
  | @layer seen layer rest _ _ ih =>
    rcases List.mem_append.mp mem with mem | mem
    · exact .inl mem
    · right
      rcases ih mem with mem | ⟨k, hk, hkey⟩
      · obtain ⟨k, hk, hkey⟩ := List.mem_flatMap.mp (mem_unseen.mp mem).1
        exact ⟨k, List.mem_append_left _ hk, hkey⟩
      · exact ⟨k, List.mem_append_right _ hk, hkey⟩

/-- What follows from a key comes, or has come in a layer before. -/
theorem closed (h : BreadthFirst next seen layer order) {k : TypeKey} (mem : k ∈ order)
    (follows : key ∈ next k) : key ∈ seen ++ order := by
  induction h with
  | done => cases mem
  | @layer seen layer rest _ further ih =>
    rw [← List.append_assoc]
    rcases List.mem_append.mp mem with mem | mem
    · by_cases old : key ∈ seen ++ layer
      · exact List.mem_append_left _ old
      · have new : key ∈ unseen (seen ++ layer) (layer.flatMap next) :=
          mem_unseen.mpr ⟨List.mem_flatMap.mpr ⟨k, mem, follows⟩, old⟩
        exact List.mem_append_right _ (further.mem_of_mem_layer new)
    · exact ih mem

end BreadthFirst

end

namespace Graph

namespace Walk

variable {source : Registry} {key : TypeKey} {pending visited keys seen done todo : List TypeKey}
  {w : Walk}

/-! ## The queue -/

/-- What is added to the queue. -/
theorem enqueue_eq : enqueue visited pending keys =
    pending ++ unseen (visited ++ pending) keys := by
  unfold enqueue
  induction keys generalizing pending with
  | nil => exact (List.append_nil _).symm
  | cons k rest ih =>
    rw [List.foldl_cons, ih]
    by_cases old : k ∈ visited ∨ k ∈ pending
    · rw [if_pos old, unseen_cons_of_mem (List.mem_append.mpr old)]
    · rw [if_neg old, unseen_cons_of_not_mem (List.mem_append.not.mpr old), List.append_assoc,
        List.append_assoc, List.singleton_append]

/-- A key that has not been visited is declared, and what it mentions waits. -/
theorem run_of_fresh (fresh : key ∉ w.visited) : run source (key :: pending) w =
    run source (enqueue (key :: w.visited) pending (source.successors key))
      (w.declare source key) := by
  rw [run, dif_pos fresh, ← Registry.references_eq_successors]
  by_cases described : key ∈ source.keys
  · rw [dif_pos described]
  · rw [dif_neg described, Registry.references_of_undescribed described]
    rfl

/-- The walk is in the middle of a layer: `seen` holds the keys of the layers before, `done` those
of the layer that have been declared and `todo` those that have not. -/
structure Midway (source : Registry) (seen done todo pending : List TypeKey) (w : Walk) :
    Prop where
  pending : pending = todo ++ unseen (seen ++ done ++ todo) (done.flatMap source.successors)
  visited : ∀ k, k ∈ w.visited ↔ k ∈ seen ++ done
  distinct : (seen ++ done ++ todo).Nodup

/-- A key of the layer is declared. -/
theorem Midway.step (h : Midway source seen done (key :: todo) (key :: pending) w) :
    Midway source seen (done ++ [key]) todo
      (enqueue (key :: w.visited) pending (source.successors key)) (w.declare source key) := by
  have assoc : seen ++ (done ++ [key]) ++ todo = seen ++ done ++ key :: todo := by simp
  have waiting := h.pending
  rw [List.cons_append, List.cons.injEq] at waiting
  constructor
  · -- the next layer grows by what the key mentions and the keys before it do not
    rw [enqueue_eq, assoc, List.flatMap_append, List.flatMap_singleton, unseen_append,
      ← List.append_assoc, ← waiting.2]
    refine congrArg (pending ++ ·) (unseen_congr fun k => ?_)
    rw [waiting.2]
    simp only [List.mem_append, List.mem_cons, h.visited]
    tauto
  · intro k
    rw [visited_declare, List.mem_cons, h.visited]
    simp only [List.mem_append, List.mem_singleton]
    tauto
  · rw [assoc]
    exact h.distinct

/-- When all of a layer has been declared, the next layer waits. -/
theorem Midway.turn (h : Midway source seen done [] pending w) :
    Midway source (seen ++ done) [] pending pending w := by
  have waiting := h.pending
  have old := h.distinct
  rw [List.append_nil, List.nil_append] at waiting
  rw [List.append_nil] at old
  constructor
  · exact (List.append_nil _).symm
  · intro k
    rw [List.append_nil]
    exact h.visited k
  · rw [List.append_nil, waiting]
    refine List.nodup_append.mpr ⟨old, nodup_unseen _ _, ?_⟩
    rintro k mem _ new rfl
    exact (mem_unseen.mp new).2 mem

/-! ## The run -/

/-- Declare keys one after the other. -/
def declareAll (source : Registry) (order : List TypeKey) (w : Walk) : Walk :=
  order.foldl (fun w key => w.declare source key) w

/-- From the middle of a layer the walk declares the rest of the layer and then the layers that
follow. -/
def Continues (source : Registry) (seen done todo pending : List TypeKey) (w : Walk) : Prop :=
  ∃ rest, BreadthFirst source.successors (seen ++ done ++ todo)
      (unseen (seen ++ done ++ todo) ((done ++ todo).flatMap source.successors)) rest ∧
    run source pending w = w.declareAll source (todo ++ rest)

theorem Continues.step (fresh : key ∉ w.visited)
    (h : Continues source seen (done ++ [key]) todo
      (enqueue (key :: w.visited) pending (source.successors key)) (w.declare source key)) :
    Continues source seen done (key :: todo) (key :: pending) w := by
  obtain ⟨rest, layers, same⟩ := h
  have assoc : seen ++ (done ++ [key]) ++ todo = seen ++ done ++ key :: todo := by simp
  have layer : done ++ [key] ++ todo = done ++ key :: todo := by simp
  rw [assoc, layer] at layers
  refine ⟨rest, layers, ?_⟩
  rw [run_of_fresh fresh, same]
  rfl

theorem Continues.turn (h : Midway source seen done [] pending w) (waits : pending ≠ [])
    (next : Continues source (seen ++ done) [] pending pending w) :
    Continues source seen done [] pending w := by
  obtain ⟨rest, layers, same⟩ := next
  have waiting := h.pending
  rw [List.append_nil, List.nil_append] at layers waiting
  refine ⟨pending ++ rest, ?_, same⟩
  rw [List.append_nil, List.append_nil, ← waiting]
  exact .layer waits layers

/-- What is known of the step that declares the first key of the queue is known of the queue. -/
theorem Midway.next (h : Midway source seen done todo (key :: pending) w)
    (declared : ∀ seen done todo, Midway source seen done (key :: todo) (key :: pending) w →
      Continues source seen done (key :: todo) (key :: pending) w) :
    Continues source seen done todo (key :: pending) w := by
  cases todo with
  | nil => exact .turn h (List.cons_ne_nil _ _) (declared _ _ _ h.turn)
  | cons k todo =>
    obtain rfl : key = k := (List.cons.inj h.pending).1
    exact declared _ _ _ h

theorem Midway.run (h : Midway source seen done todo pending w) :
    Continues source seen done todo pending w := by
  -- along the recursion of the run, for any place in any layer
  induction pending, w using run.induct source generalizing seen done todo with
  | case1 w =>
    obtain ⟨none, nothing⟩ := List.append_eq_nil_iff.mp h.pending.symm
    subst none
    rw [List.append_nil] at nothing
    refine ⟨[], ?_, ?_⟩
    · rw [List.append_nil, List.append_nil, nothing]
      exact .done
    · rw [Walk.run]
      rfl
  | case2 key rest w fresh described ih =>
    rw [Registry.references_eq_successors] at ih
    exact h.next fun seen done todo h => .step fresh (ih h.step)
  | case3 key rest w fresh undescribed ih =>
    have nothing : source.successors key = [] :=
      Registry.references_eq_successors.symm.trans (Registry.references_of_undescribed undescribed)
    refine h.next fun seen done todo h => .step fresh ?_
    have step := h.step
    rw [nothing] at step ⊢
    exact ih step
  | case4 key rest w visited ih =>
    -- what waits has not been visited
    refine h.next fun seen done todo h => ?_
    have old : key ∈ seen ++ done := (h.visited key).mp (Decidable.not_not.mp visited)
    exact absurd (.head _) (List.disjoint_of_nodup_append h.distinct old)

/-! ## Names -/

/-- A key is left out when its name is taken, else it is declared and owns the name. -/
theorem declare_cases (source : Registry) (key : TypeKey) (w : Walk) :
    let name := (source.declaration key).name
    (name ∈ w.names.keys ∧ (w.declare source key).names = w.names ∧
      (w.declare source key).graph.declarations = w.graph.declarations) ∨
    (name ∉ w.names.keys ∧ (w.declare source key).names = w.names ++ [(name, key)] ∧
      (w.declare source key).graph.declarations =
        w.graph.declarations ++ [(key, source.declaration key)]) := by
  intro name
  unfold declare
  dsimp only
  cases taken : w.names.find? name with
  | some owner => exact .inl ⟨Registry.mem_keys_of_find? taken, rfl, rfl⟩
  | none => exact .inr ⟨Entries.find?_eq_none.mp taken, rfl, rfl⟩

end Walk

/-- The keys without those whose name an earlier key has. -/
def unshadowed (source : Registry) (order : List TypeKey) : List TypeKey :=
  order.eraseDupsBy fun key earlier =>
    (source.declaration key).name == (source.declaration earlier).name

theorem unshadowed_cons (source : Registry) (key : TypeKey) (rest : List TypeKey) :
    unshadowed source (key :: rest) = key :: unshadowed source (rest.filter fun k =>
      (source.declaration k).name ≠ (source.declaration key).name) := by
  rw [unshadowed, List.eraseDupsBy_cons]
  have alike : (rest.filter fun k =>
      decide (((source.declaration k).name == (source.declaration key).name) = false)) =
      rest.filter fun k => (source.declaration k).name ≠ (source.declaration key).name :=
    List.filter_congr fun k _ => by simp
  rw [alike]
  rfl

/-- Each name goes to the first key that has it, unless it was taken before. -/
theorem declarations_declareAll (source : Registry) (order : List TypeKey) (w : Walk) :
    (w.declareAll source order).graph.declarations = w.graph.declarations ++
      (unshadowed source (order.filter fun key =>
        (source.declaration key).name ∉ w.names.keys)).map
          fun key => (key, source.declaration key) := by
  induction order generalizing w with
  | nil => exact (List.append_nil _).symm
  | cons key rest ih =>
    show ((w.declare source key).declareAll source rest).graph.declarations = _
    rw [ih]
    rcases w.declare_cases source key with
      ⟨taken, names, declarations⟩ | ⟨free, names, declarations⟩
    · rw [names, declarations, List.filter_cons_of_neg (by simpa using taken)]
    · have alike : (rest.filter fun k => (source.declaration k).name ∉
            (w.names ++ [((source.declaration key).name, key)]).keys) =
          rest.filter fun k => (source.declaration k).name ≠ (source.declaration key).name ∧
            (source.declaration k).name ∉ w.names.keys := by
        refine List.filter_congr fun k _ => decide_eq_decide.mpr ?_
        simp [Entries.keys, and_comm]
      rw [names, declarations, List.filter_cons_of_pos (by simpa using free), unshadowed_cons,
        List.filter_filter, List.map_cons, List.append_assoc, List.singleton_append, alike]
      simp only [Bool.decide_and]

/-! ## The graph -/

/-- The walk from a root declares the keys in breadth-first order. -/
theorem run_root (source : Registry) (root : TypeKey) :
    ∃ order, BreadthFirst source.successors [] [root] order ∧
      Walk.run source [root] {} = Walk.declareAll source order {} := by
  have start : Walk.Midway source [] [] [root] [root] {} :=
    ⟨rfl, fun _ => Iff.rfl, List.nodup_singleton root⟩
  obtain ⟨rest, layers, same⟩ := start.run
  exact ⟨root :: rest, .layer (List.cons_ne_nil _ _) layers, same⟩

/-- What the walk makes of an order. -/
theorem declarations_of_run {source : Registry} {root : TypeKey} {order : List TypeKey}
    (run : Walk.run source [root] {} = Walk.declareAll source order {}) :
    (build source root).declarations =
      (unshadowed source order).map fun key => (key, source.declaration key) := by
  have free : order.filter (fun key => (source.declaration key).name ∉
      ({} : Walk).names.keys) = order :=
    List.filter_eq_self.mpr fun _ _ => rfl
  rw [build, run, declarations_declareAll, free]
  rfl

/-- The declarations are those of the keys in breadth-first order, each under its key, less the keys
whose name an earlier key has. Beside the root only described keys are reached. -/
theorem declarations_build (source : Registry) (root : TypeKey) :
    ∃ order, (∀ order', BreadthFirst source.successors [] [root] order' ↔ order' = order) ∧
      order.Nodup ∧ (∀ key ∈ order, key = root ∨ source.contains key = true) ∧
      (build source root).declarations =
        (unshadowed source order).map fun key => (key, source.declaration key) := by
  obtain ⟨order, layers, same⟩ := run_root source root
  refine ⟨order, fun order' => ⟨fun h => h.unique layers, ?_⟩, ?_, ?_, declarations_of_run same⟩
  · rintro rfl
    exact layers
  · exact layers.nodup (List.nodup_singleton root)
  · intro key mem
    rcases layers.mem_cases mem with first | ⟨k, _, follows⟩
    · exact .inl (List.mem_singleton.mp first)
    · exact .inr (Registry.contains_of_mem_successors follows)

/-- A list of items, written with a list type that is not described. -/
def listed : Registry :=
  ⟨[("Items", .aliased { name := "Items", target := .named "List" [.named "Item" []] }),
    ("Item", .opaqueType "Item")], []⟩

/-- What a reference to an undescribed key has as arguments is not reached, and a root that is not
described is declared nevertheless. -/
theorem not_declarations_build :
    (¬∀ (source : Registry) (root : TypeKey) (order : List TypeKey),
      BreadthFirst (fun key =>
        ((source.shown key).flatMap TypeExpr.mentions).filter source.contains) [] [root] order →
      (build source root).declarations.keys = unshadowed source order) ∧
    ¬∀ (source : Registry) (root : TypeKey), ∀ key ∈ (build source root).declarations.keys,
      source.contains key = true := by
  constructor
  · intro h
    have order : BreadthFirst (fun key =>
        ((listed.shown key).flatMap TypeExpr.mentions).filter listed.contains) [] ["Items"]
          ["Items", "Item"] := by
      refine .layer (List.cons_ne_nil _ _) ?_
      refine .layer (List.cons_ne_nil _ _) ?_
      exact .done
    have keys := h listed "Items" _ order
    rw [build_of_no_references rfl] at keys
    revert keys
    decide
  · intro h
    have declared : "Items" ∈ (build .empty "Items").declarations.keys := by
      rw [build_of_no_references rfl]
      exact .head _
    have described := h .empty "Items" "Items" declared
    cases described

end Graph

end SchemaDialogue
