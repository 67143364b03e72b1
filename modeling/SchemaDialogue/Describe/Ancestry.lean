import SchemaDialogue.Describe.Registry
import SchemaDialogue.Measure

/-!
# The ancestry of a record

A record inherits through those of its bases that refer to described records. The ancestry lists the
inherited records depth first in the order of the bases, each record at its first visit only. Along
the way each record gets what the caller derives for it from its heir and the arguments of the base,
such as the meaning of its type parameters.

The search ends because each visited record is one of finitely many described types.
-/

namespace SchemaDialogue

namespace Registry

/-- The number of described types that have not been visited. -/
def unvisited (source : Registry) (visited : List TypeKey) : Nat :=
  source.keys.countP (· ∉ visited)

theorem unvisited_lt {source : Registry} {visited : List TypeKey} {key : TypeKey}
    (described : key ∈ source.keys) (fresh : key ∉ visited) :
    source.unvisited (key :: visited) < source.unvisited visited := by
  unfold unvisited
  generalize source.keys = keys at described
  induction keys with
  | nil => cases described
  | cons k rest ih =>
    have mono : rest.countP (· ∉ key :: visited) ≤ rest.countP (· ∉ visited) :=
      List.countP_mono_left fun a _ h => by simp_all
    by_cases hk : k = key
    · subst hk
      simp only [List.countP_cons, List.mem_cons, true_or, not_true, decide_false, fresh,
        not_false_eq_true, decide_true]
      simp only [List.mem_cons] at mono
      simp only [Bool.false_eq_true, if_false, if_true]
      omega
    · have hrest : key ∈ rest := by
        rcases List.mem_cons.1 described with h | h
        · exact absurd h.symm hk
        · exact h
      have := ih hrest
      simp only [List.countP_cons, List.mem_cons, hk, false_or] at *
      omega

theorem unvisited_cons_le (source : Registry) (key : TypeKey) (visited : List TypeKey) :
    source.unvisited (key :: visited) ≤ source.unvisited visited :=
  List.countP_mono_left fun a _ h => by simp_all

theorem mem_keys_of_find? {α : Type} {entries : Entries α} {key : String} {value : α}
    (h : entries.find? key = some value) : key ∈ entries.keys :=
  List.mem_map_of_mem (f := (·.1)) (Entries.mem_of_find? h)

/-- The inherited records with what `inherit` derives for them, from bases that are still to be
followed. -/
def ancestryFrom {σ : Type} (source : Registry) (inherit : σ → RecordDef → List TypeExpr → σ) :
    List (TypeExpr × σ) → List TypeKey → List (RecordDef × σ)
  | [], _ => []
  | (base, heir) :: rest, visited =>
    match base.unwrapped with
    | .named key args =>
      -- A record counts where it is met first, whatever its arguments elsewhere.
      if fresh : key ∉ visited then
        match h : source.lookup key with
        | some (.record r) =>
          have := unvisited_lt (mem_keys_of_find? h) fresh
          let derived := inherit heir r args
          -- Depth first: the bases of a base come before its siblings.
          (r, derived) ::
            ancestryFrom source inherit (r.bases.map (·, derived) ++ rest) (key :: visited)
        | _ => ancestryFrom source inherit rest visited
      else ancestryFrom source inherit rest visited
    | _ => ancestryFrom source inherit rest visited
termination_by pending visited => (source.unvisited visited, pending.length)

/-- The records that a record inherits from. -/
def ancestry {σ : Type} (source : Registry) (inherit : σ → RecordDef → List TypeExpr → σ)
    (r : RecordDef) (self : σ) : List (RecordDef × σ) :=
  source.ancestryFrom inherit (r.bases.map (·, self)) []

end Registry

end SchemaDialogue
