import SchemaDialogue.Proofs.Mentions
import SchemaDialogue.Proofs.Redeclared

/-!
# What a declaration can express

A type expression can be expressed when all that it names is described and gets as many arguments as
it takes, and no union and no literal in it is empty. These are the type expressions without errors
(`TypeExpr.errors_eq_nil_iff`).

A record does not declare the fields that it leaves to its bases, so their errors are not its own.
They are not lost: the record furthest up that has such a field declares it (`exists_keeper`), and
the two fields say the same (`FieldDef.Backs`).
-/

namespace SchemaDialogue

namespace TypeExpr

/-- Nothing in a type expression has to degrade. -/
structure Expressible (source : Registry) (t : TypeExpr) : Prop where
  described : ∀ key args, Part (.named key args) t →
    ∃ d, source.lookup key = some d ∧ d.typeParams.length = args.length
  unions : ¬Part (.union []) t
  literals : ¬Part (.literal []) t

variable {source : Registry} {t u v : TypeExpr} {key : TypeKey}

theorem Expressible.part (h : t.Expressible source) (part : Part u t) : u.Expressible source where
  described key args inside := h.described key args (inside.trans part)
  unions inside := h.unions (inside.trans part)
  literals inside := h.literals (inside.trans part)

/-! ## Errors -/

/-- The errors of a part are errors of the whole. -/
theorem errors_of_part (part : Part u t) (none : t.errors source = []) : u.errors source = [] := by
  induction part with
  | refl => exact none
  | @named _ key _ mem _ ih =>
    rw [errors] at none
    cases lookup : source.lookup key with
    | none =>
      rw [lookup] at none
      cases none
    | some d =>
      rw [lookup] at none
      have none := (List.append_eq_nil_iff.mp none).2
      rw [errorsAll_eq_flatMap, List.flatMap_eq_nil_iff] at none
      exact ih (none _ mem)
  | list _ ih => exact ih none
  | key _ ih => exact ih (List.append_eq_nil_iff.mp none).1
  | value _ ih => exact ih (List.append_eq_nil_iff.mp none).2
  | tuple mem _ ih =>
    rw [errors, errorsAll_eq_flatMap, List.flatMap_eq_nil_iff] at none
    exact ih (none _ mem)
  | variadic _ ih => exact ih none
  | @union _ members mem _ ih =>
    cases members with
    | nil => cases mem
    | cons first others =>
      have none : errorsAll source (first :: others) = [] := none
      rw [errorsAll_eq_flatMap, List.flatMap_eq_nil_iff] at none
      exact ih (none _ mem)
  | required _ ih => exact ih none
  | notRequired _ ih => exact ih none
  | documented _ ih => exact ih none

/-- The type expressions without errors are those that can be expressed. -/
theorem errors_eq_nil_iff : t.errors source = [] ↔ t.Expressible source := by
  constructor
  · intro none
    refine ⟨fun key args part => ?_, fun part => ?_, fun part => ?_⟩
    · have own := errors_of_part part none
      rw [errors] at own
      cases lookup : source.lookup key with
      | none =>
        rw [lookup] at own
        cases own
      | some d =>
        rw [lookup] at own
        have count := (List.append_eq_nil_iff.mp own).1
        by_cases same : d.typeParams.length = args.length
        · exact ⟨d, rfl, same⟩
        · rw [if_neg same] at count
          cases count
    · cases errors_of_part part none
    · cases errors_of_part part none
  · intro h
    induction t using TypeExpr.induction with
    | named key args ih =>
      obtain ⟨d, lookup, count⟩ := h.described key args .refl
      rw [errors, lookup]
      show (if d.typeParams.length = args.length then [] else _) ++ errorsAll source args = []
      rw [if_pos count, List.nil_append, errorsAll_eq_flatMap, List.flatMap_eq_nil_iff]
      exact fun a ha => ih a ha (h.part (.named ha .refl))
    | list element ih =>
      cases element with
      | none => rfl
      | some t => exact ih t rfl (h.part (.list .refl))
    | map key value ihk ihv =>
      rw [errors, List.append_eq_nil_iff]
      constructor
      · cases key with
        | none => rfl
        | some t => exact ihk t rfl (h.part (.key .refl))
      · cases value with
        | none => rfl
        | some t => exact ihv t rfl (h.part (.value .refl))
    | tuple elements ih =>
      rw [errors, errorsAll_eq_flatMap, List.flatMap_eq_nil_iff]
      exact fun t ht => ih t ht (h.part (.tuple ht .refl))
    | variadic element ih => exact ih (h.part (.variadic .refl))
    | union members ih =>
      cases members with
      | nil => exact absurd .refl h.unions
      | cons first others =>
        show errorsAll source (first :: others) = []
        rw [errorsAll_eq_flatMap, List.flatMap_eq_nil_iff]
        exact fun t ht => ih t ht (h.part (.union ht .refl))
    | literal choices =>
      cases choices with
      | nil => exact absurd .refl h.literals
      | cons first others => rfl
    | required inner ih => exact ih (h.part (.required .refl))
    | notRequired inner ih => exact ih (h.part (.notRequired .refl))
    | documented doc inner ih => exact ih (h.part (.documented .refl))
    | _ => rfl

/-! ## References -/

/-- What is declared to be referred to is mentioned. -/
theorem mem_mentions_of_mem_references (h : key ∈ t.references source) : key ∈ t.mentions := by
  have option : ∀ o : Option TypeExpr,
      (∀ t, o = some t → key ∈ t.references source → key ∈ t.mentions) →
      key ∈ referencesOption source o → key ∈ mentionsOption o := by
    intro o ih h
    cases o with
    | none => exact h
    | some t => exact ih t rfl h
  have all : ∀ ts : List TypeExpr,
      (∀ t ∈ ts, key ∈ t.references source → key ∈ t.mentions) →
      key ∈ referencesAll source ts → key ∈ mentionsAll ts := by
    intro ts ih h
    rw [referencesAll_eq_flatMap] at h
    rw [mentionsAll_eq_flatMap]
    obtain ⟨t, mem, h⟩ := List.mem_flatMap.mp h
    exact List.mem_flatMap.mpr ⟨t, mem, ih t mem h⟩
  induction t using TypeExpr.induction with
  | named k args ih =>
    rw [references] at h
    split at h
    · rcases List.mem_cons.mp h with rfl | h
      · exact .head _
      · exact .tail _ (all args ih h)
    · cases h
  | list element ih => exact option element ih h
  | map k v ihk ihv =>
    rcases List.mem_append.mp h with h | h
    · exact List.mem_append_left _ (option k ihk h)
    · exact List.mem_append_right _ (option v ihv h)
  | tuple elements ih => exact all elements ih h
  | variadic element ih => exact ih h
  | union members ih => exact all members ih h
  | required inner ih => exact ih h
  | notRequired inner ih => exact ih h
  | documented doc inner ih => exact ih h
  | _ => cases h

theorem Expressible.contains (h : t.Expressible source) (mem : key ∈ t.mentions) :
    source.contains key = true := by
  obtain ⟨args, part⟩ := mem_mentions.mp mem
  obtain ⟨d, lookup, _⟩ := h.described key args part
  rw [Registry.contains, lookup]
  rfl

/-- A type expression that can be expressed does not degrade. -/
theorem Expressible.degrade_eq (h : t.Expressible source) : t.degrade source = t := by
  have option : ∀ o : Option TypeExpr, (∀ t, o = some t → t.degrade source = t) →
      degradeOption source o = o := by
    intro o ih
    cases o with
    | none => rfl
    | some t => rw [degradeOption, ih t rfl]
  have all : ∀ ts : List TypeExpr, (∀ t ∈ ts, t.degrade source = t) →
      degradeAll source ts = ts := by
    intro ts ih
    rw [degradeAll_eq_map, List.map_congr_left ih, List.map_id']
  induction t using TypeExpr.induction with
  | named k args ih =>
    rw [degrade, if_pos (h.contains (.head _)),
      all args fun a ha => ih a ha (h.part (.named ha .refl))]
  | list element ih =>
    rw [degrade, option element fun t ht => ih t ht (h.part (ht ▸ .list .refl))]
  | map k v ihk ihv =>
    rw [degrade, option k fun t ht => ihk t ht (h.part (ht ▸ .key .refl)),
      option v fun t ht => ihv t ht (h.part (ht ▸ .value .refl))]
  | tuple elements ih => rw [degrade, all elements fun t ht => ih t ht (h.part (.tuple ht .refl))]
  | variadic element ih => rw [degrade, ih (h.part (.variadic .refl))]
  | union members ih => rw [degrade, all members fun t ht => ih t ht (h.part (.union ht .refl))]
  | required inner ih => rw [degrade, ih (h.part (.required .refl))]
  | notRequired inner ih => rw [degrade, ih (h.part (.notRequired .refl))]
  | documented doc inner ih => rw [degrade, ih (h.part (.documented .refl))]
  | _ => rfl

/-! ## Type expressions that are the same -/

theorem sameAll_iff {ts us : List TypeExpr} :
    sameAll ts us = true ↔ List.Forall₂ (fun t u => t.same u = true) ts us := by
  induction ts generalizing us with
  | nil => cases us <;> simp [sameAll]
  | cons t rest ih => cases us <;> simp [sameAll, ih]

theorem exists_of_sameAll {ts us : List TypeExpr} (same : sameAll ts us = true) (mem : t ∈ ts) :
    ∃ u ∈ us, t.same u = true := by
  rw [sameAll_iff] at same
  induction same with
  | nil => cases mem
  | cons first _ ih =>
    rcases List.mem_cons.mp mem with rfl | mem
    · exact ⟨_, .head _, first⟩
    · obtain ⟨u, hu, alike⟩ := ih mem
      exact ⟨u, .tail _ hu, alike⟩

theorem exists_of_sameOption {o o' : Option TypeExpr} (same : sameOption o o' = true)
    (some : o = some t) : ∃ u, o' = .some u ∧ t.same u = true := by
  subst some
  cases o' with
  | none => cases same
  | some u => exact ⟨u, rfl, same⟩

/-- What occurs in a type expression has a counterpart in each one that is the same. -/
theorem Part.of_same (same : t.same u = true) (part : Part v t) :
    ∃ w, Part w u ∧ v.same w = true := by
  induction part generalizing u with
  | refl => exact ⟨u, .refl, same⟩
  | named mem _ ih =>
    cases u with
    | named l bs =>
      obtain ⟨b, hb, alike⟩ := exists_of_sameAll (Bool.and_eq_true_iff.mp same).2 mem
      obtain ⟨w, part, same⟩ := ih alike
      exact ⟨w, .named hb part, same⟩
    | _ => cases same
  | list _ ih =>
    cases u with
    | list o =>
      obtain ⟨b, rfl, alike⟩ := exists_of_sameOption same rfl
      obtain ⟨w, part, same⟩ := ih alike
      exact ⟨w, .list part, same⟩
    | _ => cases same
  | key _ ih =>
    cases u with
    | map k e =>
      obtain ⟨b, rfl, alike⟩ := exists_of_sameOption (Bool.and_eq_true_iff.mp same).1 rfl
      obtain ⟨w, part, same⟩ := ih alike
      exact ⟨w, .key part, same⟩
    | _ => cases same
  | value _ ih =>
    cases u with
    | map k e =>
      obtain ⟨b, rfl, alike⟩ := exists_of_sameOption (Bool.and_eq_true_iff.mp same).2 rfl
      obtain ⟨w, part, same⟩ := ih alike
      exact ⟨w, .value part, same⟩
    | _ => cases same
  | tuple mem _ ih =>
    cases u with
    | tuple bs =>
      obtain ⟨b, hb, alike⟩ := exists_of_sameAll same mem
      obtain ⟨w, part, same⟩ := ih alike
      exact ⟨w, .tuple hb part, same⟩
    | _ => cases same
  | variadic _ ih =>
    cases u with
    | variadic b =>
      obtain ⟨w, part, same⟩ := ih same
      exact ⟨w, .variadic part, same⟩
    | _ => cases same
  | union mem _ ih =>
    cases u with
    | union bs =>
      obtain ⟨b, hb, alike⟩ := exists_of_sameAll same mem
      obtain ⟨w, part, same⟩ := ih alike
      exact ⟨w, .union hb part, same⟩
    | _ => cases same
  | required _ ih =>
    cases u with
    | required b =>
      obtain ⟨w, part, same⟩ := ih same
      exact ⟨w, .required part, same⟩
    | _ => cases same
  | notRequired _ ih =>
    cases u with
    | notRequired b =>
      obtain ⟨w, part, same⟩ := ih same
      exact ⟨w, .notRequired part, same⟩
    | _ => cases same
  | documented _ ih =>
    cases u with
    | documented e b =>
      obtain ⟨w, part, same⟩ := ih (Bool.and_eq_true_iff.mp same).2
      exact ⟨w, .documented part, same⟩
    | _ => cases same

/-- References that are the same have one key and equally many arguments. -/
theorem exists_named_of_same {args : List TypeExpr} (same : (named key args).same u = true) :
    ∃ args', u = .named key args' ∧ args.length = args'.length := by
  cases u with
  | named l bs =>
    obtain ⟨hkey, hargs⟩ := Bool.and_eq_true_iff.mp same
    exact ⟨bs, by rw [eq_of_beq hkey], (sameAll_iff.mp hargs).length_eq⟩
  | _ => cases same

theorem Expressible.of_same (h : u.Expressible source) (same : t.same u = true) :
    t.Expressible source where
  described key args part := by
    obtain ⟨w, part, same⟩ := part.of_same same
    obtain ⟨args', rfl, length⟩ := exists_named_of_same same
    rw [length]
    exact h.described key args' part
  unions part := by
    obtain ⟨w, part, same⟩ := part.of_same same
    cases w with
    | union members =>
      cases members with
      | nil => exact h.unions part
      | cons _ _ => cases same
    | _ => cases same
  literals part := by
    obtain ⟨w, part, same⟩ := part.of_same same
    cases w with
    | literal choices =>
      cases choices with
      | nil => exact h.literals part
      | cons _ _ => cases same
    | _ => cases same

theorem mem_mentions_of_same (same : t.same u = true) (mem : key ∈ t.mentions) :
    key ∈ u.mentions := by
  obtain ⟨args, part⟩ := mem_mentions.mp mem
  obtain ⟨w, part, same⟩ := part.of_same same
  obtain ⟨args', rfl, _⟩ := exists_named_of_same same
  exact mem_mentions.mpr ⟨args', part⟩

theorem overrides_of_same (same : t.same u = true) :
    (FieldWrapping.ofType t).overrides = (FieldWrapping.ofType u).overrides := by
  induction t using TypeExpr.induction generalizing u with
  | required inner ih =>
    cases u with
    | required b => exact congrArg (· + 1) (ih same)
    | _ => cases same
  | notRequired inner ih =>
    cases u with
    | notRequired b => exact congrArg (· + 1) (ih same)
    | _ => cases same
  | documented doc inner ih =>
    cases u with
    | documented e b =>
      show (FieldWrapping.ofType inner).overrides = (FieldWrapping.ofType b).overrides
      exact ih (Bool.and_eq_true_iff.mp same).2
    | _ => cases same
  | _ =>
    cases u with
    | required | notRequired | documented => cases same
    | _ => rfl

end TypeExpr

/-! ## Fields that are left to the bases -/

/-- What the declaration of the field `g` expresses, and refers to, holds for the field `f` too. -/
structure FieldDef.Backs (source : Registry) (g f : FieldDef) : Prop where
  expressible : g.type.Expressible source → f.type.Expressible source
  mentions : ∀ key ∈ f.type.mentions, key ∈ g.type.mentions
  overrides : (FieldWrapping.ofType f.type).overrides = (FieldWrapping.ofType g.type).overrides

theorem FieldDef.Backs.refl {source : Registry} (f : FieldDef) : Backs source f f :=
  ⟨id, fun _ h => h, rfl⟩

theorem FieldDef.Backs.trans {source : Registry} {f g h : FieldDef} (hg : Backs source h g)
    (hf : Backs source g f) : Backs source h f where
  expressible := hf.expressible ∘ hg.expressible
  mentions key mem := hg.mentions key (hf.mentions key mem)
  overrides := hf.overrides.trans hg.overrides

theorem FieldDef.Backs.of_same {source : Registry} {f g : FieldDef}
    (same : f.type.same g.type = true) : Backs source g f where
  expressible h := h.of_same same
  mentions _ mem := TypeExpr.mem_mentions_of_same same mem
  overrides := TypeExpr.overrides_of_same same

namespace Registry

variable {source : Registry}

/-- What the search comes to, when it starts above a record, is above that record. -/
theorem exists_of_mem_ancestryFrom {σ : Type} {inherit : σ → RecordDef → List TypeExpr → σ}
    {P : TypeKey → Prop} (up : ∀ k k', P k → Extends source k k' → P k')
    (pending : List (TypeExpr × σ)) (visited : List TypeKey)
    (start : ∀ p ∈ pending, ∀ k args, p.1.unwrapped = .named k args → P k)
    {q : RecordDef × σ} (mem : q ∈ source.ancestryFrom inherit pending visited) :
    ∃ k, P k ∧ source.lookup k = some (.record q.1) := by
  match pending with
  | [] =>
    rw [ancestryFrom] at mem
    cases mem
  | (base, heir) :: rest =>
    rcases source.leads_cases visited base with ⟨k, args, p, leads⟩ | idle
    · have here : P k := start _ (.head _) k args leads.named
      rw [ancestryFrom_of_leads leads] at mem
      rcases List.mem_cons.mp mem with rfl | mem
      · exact ⟨k, here, leads.lookup⟩
      · refine exists_of_mem_ancestryFrom up _ _ (fun p' hp' k' args' named => ?_) mem
        rcases List.mem_append.mp hp' with hp' | hp'
        · obtain ⟨base', hbase, rfl⟩ := List.mem_map.mp hp'
          exact up k k' here ⟨p, base', args', leads.lookup, hbase, named⟩
        · exact start p' (.tail _ hp') k' args' named
    · rw [ancestryFrom_of_idle idle] at mem
      exact exists_of_mem_ancestryFrom up _ _ (fun p' hp' => start p' (.tail _ hp')) mem
termination_by (source.unvisited visited, pending.length)
decreasing_by
  · exact .left _ _ leads.unvisited_lt
  · exact .right _ (Nat.lt_succ_self _)

/-- A field that is left to the bases is backed by a field of a record above. -/
theorem exists_backs_of_isInherited {key : TypeKey} {r : RecordDef} {f : FieldDef}
    (lookup : source.lookup key = some (.record r))
    (left : r.isInherited source f = true) :
    ∃ k p g, Relation.TransGen (Extends source) key k ∧ source.lookup k = some (.record p) ∧
      g ∈ p.fields ∧ FieldDef.Backs source g f := by
  rw [RecordDef.isInherited, Bool.and_eq_true_iff, List.all_eq_true] at left
  obtain ⟨some, same⟩ := left
  obtain ⟨t, mem⟩ :=
    List.exists_mem_of_ne_nil (r.inheritedTypes source f.name) (by simpa using some)
  obtain ⟨q, above, field⟩ := List.mem_flatMap.mp mem
  obtain ⟨g, hg, rfl⟩ := List.mem_map.mp field
  obtain ⟨k, path, lookup'⟩ := exists_of_mem_ancestryFrom
    (P := Relation.TransGen (Extends source) key) (fun _ _ path step => path.tail step) _ _
    (by
      intro p hp k args named
      obtain ⟨base, hbase, rfl⟩ := List.mem_map.mp hp
      exact .single ⟨r, base, args, lookup, hbase, named⟩) above
  exact ⟨k, q.1, g, path, lookup', (List.mem_filter.mp hg).1, .of_same (same _ mem)⟩

/-- Each field of a record is backed by one that is declared, by the record or above it. No record
above may be its own ancestor, or all of them could leave the field to each other. -/
theorem exists_keeper {key : TypeKey} {r : RecordDef} {f : FieldDef} (trail : List TypeKey)
    (below : ∀ k ∈ trail, Relation.TransGen (Extends source) k key)
    (acyclic : ∀ k, Relation.ReflTransGen (Extends source) key k →
      ¬Relation.TransGen (Extends source) k k)
    (lookup : source.lookup key = some (.record r)) (mem : f ∈ r.fields) :
    ∃ k p g, Relation.ReflTransGen (Extends source) key k ∧
      source.lookup k = some (.record p) ∧ g ∈ p.ownFields source ∧
      FieldDef.Backs source g f := by
  cases left : r.isInherited source f with
  | false =>
    exact ⟨key, r, f, .refl, lookup, List.mem_filter.mpr ⟨mem, by rw [left]; rfl⟩, .refl f⟩
  | true =>
    obtain ⟨k, p, g, path, lookup', mem', backs⟩ := exists_backs_of_isInherited lookup left
    have fresh : key ∉ trail := fun seen => acyclic key .refl (below key seen)
    obtain ⟨k', p', g', path', lookup'', own, backs'⟩ :=
      exists_keeper (key :: trail)
        (fun k₀ hk₀ => by
          rcases List.mem_cons.mp hk₀ with rfl | hk₀
          · exact path
          · exact (below k₀ hk₀).trans path)
        (fun k₀ path₀ => acyclic k₀ (path.to_reflTransGen.trans path₀)) lookup' mem'
    exact ⟨k', p', g', path.to_reflTransGen.trans path', lookup'', own, backs'.trans backs⟩
termination_by source.unvisited trail
decreasing_by exact unvisited_lt (mem_keys_of_find? lookup) fresh

end Registry

end SchemaDialogue
