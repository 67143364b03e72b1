import SchemaDialogue.Proofs.Lowering

/-!
# What type expressions mention

The keys that a type expression mentions, read from left to right (`TypeExpr.mentions`), and the
type expression as it is declared: a reference to a key that is not described is declared as `any`,
and its arguments are not declared at all (`TypeExpr.degrade`).

The references of a declaration are the keys that its type expressions mention as they are declared
(`Registry.references_eq_successors`). Where references to undescribed keys have no arguments, these
are the described ones among all keys that the type expressions mention
(`Registry.filter_mentions_eq_successors`).
-/

namespace SchemaDialogue

namespace TypeExpr

mutual

/-- The keys that a type expression mentions: a key before its arguments, the key of a map before
its value. -/
def mentions : TypeExpr → List TypeKey
  | named key args => key :: mentionsAll args
  | list element => mentionsOption element
  | map key value => mentionsOption key ++ mentionsOption value
  | tuple elements => mentionsAll elements
  | variadic element => element.mentions
  | union members => mentionsAll members
  | required inner => inner.mentions
  | notRequired inner => inner.mentions
  | documented _ inner => inner.mentions
  | _ => []

/-- The keys that type expressions mention. -/
def mentionsAll : List TypeExpr → List TypeKey
  | [] => []
  | t :: rest => t.mentions ++ mentionsAll rest

/-- The keys that a type expression mentions, if there is one. -/
def mentionsOption : Option TypeExpr → List TypeKey
  | none => []
  | some t => t.mentions

end

mutual

/-- The type expression with `any` for each reference to a key that is not described. -/
def degrade (source : Registry) : TypeExpr → TypeExpr
  | named key args => if source.contains key then named key (degradeAll source args) else any
  | list element => list (degradeOption source element)
  | map key value => map (degradeOption source key) (degradeOption source value)
  | tuple elements => tuple (degradeAll source elements)
  | variadic element => variadic (degrade source element)
  | union members => union (degradeAll source members)
  | required inner => required (degrade source inner)
  | notRequired inner => notRequired (degrade source inner)
  | documented doc inner => documented doc (degrade source inner)
  | other => other

/-- Type expressions with `any` for each reference to a key that is not described. -/
def degradeAll (source : Registry) : List TypeExpr → List TypeExpr
  | [] => []
  | t :: rest => degrade source t :: degradeAll source rest

/-- The same of a type expression that may be missing. -/
def degradeOption (source : Registry) : Option TypeExpr → Option TypeExpr
  | none => none
  | some t => some (degrade source t)

end

variable {source : Registry} {key : TypeKey} {t u : TypeExpr}

theorem mentionsAll_eq_flatMap (ts : List TypeExpr) : mentionsAll ts = ts.flatMap mentions := by
  induction ts with
  | nil => rfl
  | cons t rest ih => rw [mentionsAll, ih, List.flatMap_cons]

theorem degradeAll_eq_map (ts : List TypeExpr) :
    degradeAll source ts = ts.map (degrade source) := by
  induction ts with
  | nil => rfl
  | cons t rest ih => rw [degradeAll, ih, List.map_cons]

/-! ## Mentioned keys -/

theorem mem_mentionsOption {o : Option TypeExpr} :
    key ∈ mentionsOption o ↔ ∃ t, o = some t ∧ key ∈ t.mentions := by
  cases o <;> simp [mentionsOption]

theorem mem_mentions_of_part (part : Part u t) (h : key ∈ u.mentions) : key ∈ t.mentions := by
  induction part with
  | refl => exact h
  | named mem _ ih =>
    rw [mentions, mentionsAll_eq_flatMap]
    exact .tail _ (List.mem_flatMap.mpr ⟨_, mem, ih⟩)
  | list _ ih => exact ih
  | key _ ih => exact List.mem_append_left _ ih
  | value _ ih => exact List.mem_append_right _ ih
  | tuple mem _ ih =>
    rw [mentions, mentionsAll_eq_flatMap]
    exact List.mem_flatMap.mpr ⟨_, mem, ih⟩
  | variadic _ ih => exact ih
  | union mem _ ih =>
    rw [mentions, mentionsAll_eq_flatMap]
    exact List.mem_flatMap.mpr ⟨_, mem, ih⟩
  | required _ ih => exact ih
  | notRequired _ ih => exact ih
  | documented _ ih => exact ih

/-- The keys that are mentioned are those of the references inside. -/
theorem mem_mentions : key ∈ t.mentions ↔ ∃ args, Part (.named key args) t := by
  constructor
  · intro h
    induction t using TypeExpr.induction with
    | named k args ih =>
      rw [mentions, mentionsAll_eq_flatMap] at h
      rcases List.mem_cons.mp h with rfl | h
      · exact ⟨args, .refl⟩
      · obtain ⟨a, mem, h⟩ := List.mem_flatMap.mp h
        obtain ⟨args', part⟩ := ih a mem h
        exact ⟨args', .named mem part⟩
    | list element ih =>
      obtain ⟨t, rfl, h⟩ := mem_mentionsOption.mp h
      obtain ⟨args, part⟩ := ih t rfl h
      exact ⟨args, .list part⟩
    | map k v ihk ihv =>
      rcases List.mem_append.mp h with h | h
      · obtain ⟨t, rfl, h⟩ := mem_mentionsOption.mp h
        obtain ⟨args, part⟩ := ihk t rfl h
        exact ⟨args, .key part⟩
      · obtain ⟨t, rfl, h⟩ := mem_mentionsOption.mp h
        obtain ⟨args, part⟩ := ihv t rfl h
        exact ⟨args, .value part⟩
    | tuple elements ih =>
      rw [mentions, mentionsAll_eq_flatMap] at h
      obtain ⟨t, mem, h⟩ := List.mem_flatMap.mp h
      obtain ⟨args, part⟩ := ih t mem h
      exact ⟨args, .tuple mem part⟩
    | variadic element ih =>
      obtain ⟨args, part⟩ := ih h
      exact ⟨args, .variadic part⟩
    | union members ih =>
      rw [mentions, mentionsAll_eq_flatMap] at h
      obtain ⟨t, mem, h⟩ := List.mem_flatMap.mp h
      obtain ⟨args, part⟩ := ih t mem h
      exact ⟨args, .union mem part⟩
    | required inner ih =>
      obtain ⟨args, part⟩ := ih h
      exact ⟨args, .required part⟩
    | notRequired inner ih =>
      obtain ⟨args, part⟩ := ih h
      exact ⟨args, .notRequired part⟩
    | documented doc inner ih =>
      obtain ⟨args, part⟩ := ih h
      exact ⟨args, .documented part⟩
    | _ => cases h
  · rintro ⟨args, part⟩
    exact mem_mentions_of_part part (.head _)

/-! ## What is declared -/

/-- What is declared only refers to described keys. -/
theorem contains_of_part_degrade {args : List TypeExpr}
    (part : Part (.named key args) (t.degrade source)) : source.contains key = true := by
  induction t using TypeExpr.induction with
  | named k as ih =>
    rw [degrade, degradeAll_eq_map] at part
    split at part
    · rename_i described
      cases part with
      | refl => exact described
      | named mem part =>
        obtain ⟨a, ha, rfl⟩ := List.mem_map.mp mem
        exact ih a ha part
    · cases part
  | list element ih =>
    cases element with
    | none => cases part
    | some t =>
      cases part with
      | list part => exact ih t rfl part
  | map k v ihk ihv =>
    rw [degrade] at part
    cases k <;> cases v <;> cases part
    · exact ihv _ rfl ‹_›
    · exact ihk _ rfl ‹_›
    · exact ihk _ rfl ‹_›
    · exact ihv _ rfl ‹_›
  | tuple elements ih =>
    rw [degrade, degradeAll_eq_map] at part
    cases part with
    | tuple mem part =>
      obtain ⟨t, ht, rfl⟩ := List.mem_map.mp mem
      exact ih t ht part
  | variadic element ih => cases part with | variadic part => exact ih part
  | union members ih =>
    rw [degrade, degradeAll_eq_map] at part
    cases part with
    | union mem part =>
      obtain ⟨t, ht, rfl⟩ := List.mem_map.mp mem
      exact ih t ht part
  | required inner ih => cases part with | required part => exact ih part
  | notRequired inner ih => cases part with | notRequired part => exact ih part
  | documented doc inner ih => cases part with | documented part => exact ih part
  | _ => cases part

/-- The references of a type expression are the keys that it mentions as it is declared. -/
theorem references_eq (t : TypeExpr) : t.references source = (t.degrade source).mentions := by
  have option : ∀ o : Option TypeExpr, (∀ t, o = some t → t.references source =
      (t.degrade source).mentions) → referencesOption source o =
        mentionsOption (degradeOption source o) := by
    intro o ih
    cases o with
    | none => rfl
    | some t => exact ih t rfl
  have all : ∀ ts : List TypeExpr, (∀ t ∈ ts, t.references source = (t.degrade source).mentions) →
      referencesAll source ts = mentionsAll (degradeAll source ts) := by
    intro ts ih
    rw [referencesAll_eq_flatMap, mentionsAll_eq_flatMap, degradeAll_eq_map, List.flatMap_map]
    exact List.flatMap_congr ih
  induction t using TypeExpr.induction with
  | named key args ih =>
    rw [references, degrade]
    split
    · rw [mentions, all args ih]
    · rfl
  | list element ih => exact option element ih
  | map key value ihk ihv =>
    rw [references, degrade, mentions, option key ihk, option value ihv]
  | tuple elements ih => exact all elements ih
  | variadic element ih => exact ih
  | union members ih => exact all members ih
  | required inner ih => exact ih
  | notRequired inner ih => exact ih
  | documented doc inner ih => exact ih
  | _ => rfl

/-- Where references to undescribed keys have no arguments, the references of a type expression are
the described keys that it mentions. -/
theorem filter_mentions (t : TypeExpr) (bare : ∀ key args, Part (.named key args) t →
    source.contains key = true ∨ args = []) :
    t.mentions.filter source.contains = t.references source := by
  have option : ∀ o : Option TypeExpr, (∀ t, o = some t →
      t.mentions.filter source.contains = t.references source) →
        (mentionsOption o).filter source.contains = referencesOption source o := by
    intro o ih
    cases o with
    | none => rfl
    | some t => exact ih t rfl
  have all : ∀ ts : List TypeExpr, (∀ t ∈ ts,
      t.mentions.filter source.contains = t.references source) →
        (mentionsAll ts).filter source.contains = referencesAll source ts := by
    intro ts ih
    rw [referencesAll_eq_flatMap, mentionsAll_eq_flatMap, List.filter_flatMap]
    exact List.flatMap_congr ih
  induction t using TypeExpr.induction with
  | named key args ih =>
    rw [references, mentions]
    by_cases described : source.contains key = true
    · rw [List.filter_cons_of_pos described, if_pos described]
      refine congrArg _ (all args fun a mem => ih a mem fun k as part => ?_)
      exact bare k as (.named mem part)
    · rw [List.filter_cons_of_neg described, if_neg described,
        (bare key args .refl).resolve_left described]
      rfl
  | list element ih =>
    refine option element fun t ht => ih t ht fun k as part => ?_
    subst ht
    exact bare k as (.list part)
  | map key value ihk ihv =>
    rw [references, mentions, List.filter_append]
    refine congrArg₂ _ (option key fun t ht => ihk t ht fun k as part => ?_)
      (option value fun t ht => ihv t ht fun k as part => ?_)
    · subst ht
      exact bare k as (.key part)
    · subst ht
      exact bare k as (.value part)
  | tuple elements ih =>
    exact all elements fun t mem => ih t mem fun k as part => bare k as (.tuple mem part)
  | variadic element ih => exact ih fun k as part => bare k as (.variadic part)
  | union members ih =>
    exact all members fun t mem => ih t mem fun k as part => bare k as (.union mem part)
  | required inner ih => exact ih fun k as part => bare k as (.required part)
  | notRequired inner ih => exact ih fun k as part => bare k as (.notRequired part)
  | documented doc inner ih => exact ih fun k as part => bare k as (.documented part)
  | _ => rfl

end TypeExpr

namespace Registry

/-- The type expressions in the declaration of a key, in order. -/
def shown (source : Registry) (key : TypeKey) : List TypeExpr :=
  match source.lookup key with
  | some (.record r) => r.bases ++ (r.ownFields source).map (·.type) ++ r.extra.toList
  | some (.aliased a) => [a.target]
  | _ => []

/-- The keys that the declaration of a key mentions, in order. -/
def successors (source : Registry) (key : TypeKey) : List TypeKey :=
  (source.shown key).flatMap fun t => (t.degrade source).mentions

variable {source : Registry} {key key' : TypeKey}

theorem references_eq_successors : source.references key = source.successors key := by
  unfold references successors shown
  cases source.lookup key with
  | none => rfl
  | some definition =>
    cases definition with
    | record r =>
      have extra : TypeExpr.referencesOption source r.extra =
          r.extra.toList.flatMap (TypeExpr.references source) := by
        cases r.extra with
        | none => rfl
        | some t => exact (List.flatMap_singleton _ _).symm
      show r.references source = (r.bases ++ (r.ownFields source).map (·.type) ++
        r.extra.toList).flatMap fun t => (t.degrade source).mentions
      rw [RecordDef.references, TypeExpr.referencesAll_eq_flatMap, extra,
        ← funext fun t => TypeExpr.references_eq t, List.flatMap_append, List.flatMap_append,
        List.flatMap_map]
    | aliased a => exact (TypeExpr.references_eq _).trans (List.flatMap_singleton _ _).symm
    | opaqueType name => rfl

theorem references_of_undescribed (h : key ∉ source.keys) : source.references key = [] := by
  have none : source.lookup key = none := Entries.find?_eq_none.mpr h
  rw [references, none]

/-- What is mentioned in a declaration is described. -/
theorem contains_of_mem_successors (h : key' ∈ source.successors key) :
    source.contains key' = true := by
  obtain ⟨t, _, h⟩ := List.mem_flatMap.mp h
  obtain ⟨args, part⟩ := TypeExpr.mem_mentions.mp h
  exact TypeExpr.contains_of_part_degrade part

/-- Where references to undescribed keys have no arguments, the declaration mentions all described
keys that the definition mentions. -/
theorem filter_mentions_eq_successors (bare : ∀ t ∈ source.shown key, ∀ k args,
    TypeExpr.Part (.named k args) t → source.contains k = true ∨ args = []) :
    ((source.shown key).flatMap TypeExpr.mentions).filter source.contains =
      source.successors key := by
  rw [List.filter_flatMap, successors]
  refine List.flatMap_congr fun t mem => ?_
  rw [TypeExpr.filter_mentions t (bare t mem), TypeExpr.references_eq]

end Registry

end SchemaDialogue
