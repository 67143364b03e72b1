import SchemaDialogue.Proofs.Heritage

/-!
# The search by recursion

The search for inherited records keeps one list of the bases that are still to be followed. Read as
a recursion (`explore`), it goes through the bases of a record one after the other, each with all
that it inherits from before the next, and what one base has visited is not visited for the next
ones.

The two find the same, record by record: what the recursion finds for some bases is what the search
puts in front of all that it finds for the bases that follow (`ancestryFrom_append`).
-/

namespace SchemaDialogue

namespace Registry

variable {source : Registry} {visited visited' : List TypeKey}

theorem unvisited_le_of_subset (h : visited ⊆ visited') :
    source.unvisited visited' ≤ source.unvisited visited :=
  List.countP_mono_left fun key _ fresh => by
    simp only [decide_eq_true_eq] at fresh ⊢
    exact fun mem => fresh (h mem)

/-- After a fresh key, more may be visited still. -/
theorem unvisited_append_lt {key : TypeKey} (more : List TypeKey)
    (h : source.unvisited (key :: visited) < source.unvisited visited) :
    source.unvisited (more ++ key :: visited) < source.unvisited visited :=
  Nat.lt_of_le_of_lt (unvisited_le_of_subset (List.subset_append_right _ _)) h

variable {σ : Type} {inherit : σ → RecordDef → List TypeExpr → σ} {heir : σ} {base : TypeExpr}
  {rest : List TypeExpr} {key : TypeKey} {args : List TypeExpr} {r : RecordDef}

/-- The records that the bases of an heir bring, and the keys that are visited for them. -/
def explore (source : Registry) (inherit : σ → RecordDef → List TypeExpr → σ) (heir : σ)
    (bases : List TypeExpr) (visited : List TypeKey) : List (RecordDef × σ) × List TypeKey :=
  match bases with
  | [] => ([], [])
  | base :: rest =>
    match base.unwrapped with
    | .named key args =>
      if fresh : key ∉ visited then
        match h : source.lookup key with
        | some (.record r) =>
          have lt := unvisited_lt (mem_keys_of_find? h) fresh
          let derived := inherit heir r args
          let first := explore source inherit derived r.bases (key :: visited)
          have := unvisited_append_lt first.2 lt
          let others := explore source inherit heir rest (first.2 ++ key :: visited)
          ((r, derived) :: first.1 ++ others.1, others.2 ++ (first.2 ++ [key]))
        | _ => explore source inherit heir rest visited
      else explore source inherit heir rest visited
    | _ => explore source inherit heir rest visited
termination_by (source.unvisited visited, bases.length)

@[simp] theorem explore_nil : source.explore inherit heir [] visited = ([], []) := by
  rw [explore]

theorem explore_of_leads (h : source.Leads visited base key args r) :
    source.explore inherit heir (base :: rest) visited =
      let first := source.explore inherit (inherit heir r args) r.bases (key :: visited)
      let others := source.explore inherit heir rest (first.2 ++ key :: visited)
      ((r, inherit heir r args) :: first.1 ++ others.1, others.2 ++ (first.2 ++ [key])) := by
  rw [explore]
  split
  · rename_i k as named
    cases h.named.symm.trans named
    rw [dif_pos h.fresh]
    split
    · rename_i r' lookup
      cases h.lookup.symm.trans lookup
      rfl
    · rename_i other
      exact absurd h.lookup (other r)
  · rename_i other
    exact absurd h.named (other key args)

/-- The recursion passes over a base that leads to no record. -/
theorem explore_of_idle (idle : ∀ key args r, ¬source.Leads visited base key args r) :
    source.explore inherit heir (base :: rest) visited =
      source.explore inherit heir rest visited := by
  rw [explore]
  split
  · rename_i key args named
    split
    · rename_i fresh
      split
      · rename_i r lookup
        exact absurd ⟨named, fresh, lookup⟩ (idle key args r)
      · rfl
    · rfl
  · rfl

/-- What the search finds for some bases stands in front of all that it finds for those that
follow, which begin with what has been visited by then. -/
theorem ancestryFrom_append (source : Registry) (inherit : σ → RecordDef → List TypeExpr → σ)
    (heir : σ) (bases : List TypeExpr) (pending : List (TypeExpr × σ)) (visited : List TypeKey) :
    source.ancestryFrom inherit (bases.map (·, heir) ++ pending) visited =
      (source.explore inherit heir bases visited).1 ++
        source.ancestryFrom inherit pending
          ((source.explore inherit heir bases visited).2 ++ visited) := by
  match bases with
  | [] => rw [explore_nil]; rfl
  | base :: rest =>
    rw [List.map_cons, List.cons_append]
    rcases source.leads_cases visited base with ⟨key, args, r, leads⟩ | idle
    · rw [ancestryFrom_of_leads leads, explore_of_leads leads, ancestryFrom_append,
        ancestryFrom_append]
      simp only [List.cons_append, List.append_assoc, List.nil_append]
    · rw [ancestryFrom_of_idle idle, explore_of_idle idle, ancestryFrom_append]
termination_by (source.unvisited visited, bases.length)
decreasing_by
  · exact .left _ _ leads.unvisited_lt
  · exact .left _ _ (unvisited_append_lt _ leads.unvisited_lt)
  · exact .right _ (Nat.lt_succ_self _)

/-- The recursion finds what the search finds for a record. -/
theorem ancestry_eq_explore (r : RecordDef) (self : σ) :
    source.ancestry inherit r self = (source.explore inherit self r.bases []).1 := by
  have := source.ancestryFrom_append inherit self r.bases [] []
  rw [List.append_nil, ancestryFrom, List.append_nil] at this
  exact this

end Registry

end SchemaDialogue
