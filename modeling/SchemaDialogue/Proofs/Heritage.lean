import SchemaDialogue.Conform.Shape

/-!
# Inheritance without a list of visited records

The ancestry of a record is collected depth first with one list of visited keys for the whole
search. This file gives the plain reading next to it: `heritage` expands each base by itself and
only refuses to come back to a key on the way down. Where the same record is reached along two ways
it occurs twice here, with two scopes.

The two agree on everything that is looked up by a first occurrence (`findSome?_lineage`), however
the records inherit from each other. So a record dropped from the search would never have been
looked at:

* **barren keys**: a key is barren when nothing above it has what is looked for (`Barren`);
* **the invariant**: once all that stands before a pending base has been searched in vain, every
  visited key that is not on the way to that base is barren (`Exhausted`).
-/

namespace SchemaDialogue

namespace Registry

/-! ## The plain reading -/

/-- What a base brings: the record it refers to and what the bases of that bring, in order. A base
that leads back to a key of `trail` brings nothing. -/
def branch (source : Registry) (trail : List TypeKey) (scope : Scope) (base : TypeExpr) :
    List (RecordDef × Scope) :=
  match base.unwrapped with
  | .named key args =>
    if fresh : key ∉ trail then
      match h : source.lookup key with
      | some (.record r) =>
        have := unvisited_lt (mem_keys_of_find? h) fresh
        let inner := inheritScope scope r args
        (r, inner) :: r.bases.flatMap (branch source (key :: trail) inner)
      | _ => []
    else []
  | _ => []
termination_by source.unvisited trail

/-- The record and what its bases bring. -/
def heritage (source : Registry) (scope : Scope) (r : RecordDef) : List (RecordDef × Scope) :=
  (r, scope) :: r.bases.flatMap (source.branch [] scope)

variable {source : Registry} {trail : List TypeKey} {scope : Scope} {base : TypeExpr}
  {key : TypeKey} {args : List TypeExpr} {r : RecordDef}

/-- The base refers to a described record that is not on the way to it. -/
structure Leads (source : Registry) (trail : List TypeKey) (base : TypeExpr) (key : TypeKey)
    (args : List TypeExpr) (r : RecordDef) : Prop where
  named : base.unwrapped = .named key args
  fresh : key ∉ trail
  lookup : source.lookup key = some (.record r)

theorem Leads.unvisited_lt (h : source.Leads trail base key args r) :
    source.unvisited (key :: trail) < source.unvisited trail :=
  Registry.unvisited_lt (mem_keys_of_find? h.lookup) h.fresh

theorem leads_cases (source : Registry) (trail : List TypeKey) (base : TypeExpr) :
    (∃ key args r, source.Leads trail base key args r) ∨
      ∀ key args r, ¬source.Leads trail base key args r := by
  by_cases h : ∃ key args r, source.Leads trail base key args r
  · exact .inl h
  · exact .inr fun key args r leads => h ⟨key, args, r, leads⟩

theorem branch_of_leads (h : source.Leads trail base key args r) :
    source.branch trail scope base =
      (r, inheritScope scope r args) ::
        r.bases.flatMap (source.branch (key :: trail) (inheritScope scope r args)) := by
  rw [branch]
  split
  · rename_i k as named
    cases h.named.symm.trans named
    rw [dif_pos h.fresh]
    split
    · rename_i r' lookup
      cases h.lookup.symm.trans lookup
      rfl
    · rename_i other
      exact absurd h.lookup (other r)
  · rename_i other
    exact absurd h.named (other key args)

/-- A base that leads to no record brings nothing. -/
theorem branch_of_idle (idle : ∀ key args r, ¬source.Leads trail base key args r) :
    source.branch trail scope base = [] := by
  rw [branch]
  split
  · rename_i key args named
    split
    · rename_i fresh
      split
      · rename_i r lookup
        exact absurd ⟨named, fresh, lookup⟩ (idle key args r)
      · rfl
    · rfl
  · rfl

/-! ## One step of the search -/

section

variable {σ : Type} {inherit : σ → RecordDef → List TypeExpr → σ} {heir : σ}
  {pending : List (TypeExpr × σ)} {visited : List TypeKey}

theorem ancestryFrom_of_leads (h : source.Leads visited base key args r) :
    source.ancestryFrom inherit ((base, heir) :: pending) visited =
      (r, inherit heir r args) ::
        source.ancestryFrom inherit (r.bases.map (·, inherit heir r args) ++ pending)
          (key :: visited) := by
  rw [ancestryFrom]
  split
  · rename_i k as named
    cases h.named.symm.trans named
    rw [dif_pos h.fresh]
    split
    · rename_i r' lookup
      cases h.lookup.symm.trans lookup
      rfl
    · rename_i other
      exact absurd h.lookup (other r)
  · rename_i other
    exact absurd h.named (other key args)

/-- The search passes over a base that leads to no record. -/
theorem ancestryFrom_of_idle (idle : ∀ key args r, ¬source.Leads visited base key args r) :
    source.ancestryFrom inherit ((base, heir) :: pending) visited =
      source.ancestryFrom inherit pending visited := by
  rw [ancestryFrom]
  split
  · rename_i key args named
    split
    · rename_i fresh
      split
      · rename_i r lookup
        exact absurd ⟨named, fresh, lookup⟩ (idle key args r)
      · rfl
    · rfl
  · rfl

end

/-! ## Barren keys -/

/-- `Above source avoid key r`: the bases lead from `key` to `r` without a key of `avoid`. -/
inductive Above (source : Registry) (avoid : List TypeKey) : TypeKey → RecordDef → Prop
  | here {key : TypeKey} {r : RecordDef} : key ∉ avoid → source.lookup key = some (.record r) →
      Above source avoid key r
  | up {key key' : TypeKey} {p r : RecordDef} {base : TypeExpr} {args : List TypeExpr} :
      key ∉ avoid → source.lookup key = some (.record p) → base ∈ p.bases →
      base.unwrapped = .named key' args → Above source avoid key' r → Above source avoid key r

theorem Above.mono {avoid more : List TypeKey} (sub : ∀ k ∈ avoid, k ∈ more)
    (above : Above source more key r) : Above source avoid key r := by
  induction above with
  | here fresh lookup => exact .here (fun hmem => fresh (sub _ hmem)) lookup
  | up fresh lookup hbase named _ ih =>
    exact .up (fun hmem => fresh (sub _ hmem)) lookup hbase named ih

/-- Nothing above the key has what is looked for. -/
def Barren (source : Registry) (Blank : RecordDef → Prop) (avoid : List TypeKey) (key : TypeKey) :
    Prop :=
  ∀ r, Above source avoid key r → Blank r

variable {Blank : RecordDef → Prop}

theorem Barren.mono {avoid more : List TypeKey} (sub : ∀ k ∈ avoid, k ∈ more)
    (h : Barren source Blank avoid key) : Barren source Blank more key :=
  fun r above => h r (above.mono sub)

/-- A key is barren when its record has nothing and its bases lead to barren keys only, even if
these are known to be barren only as long as the key itself is avoided. -/
theorem Barren.of_bases (lookup : source.lookup key = some (.record r)) (blank : Blank r)
    (bases : ∀ base ∈ r.bases, ∀ key' args, base.unwrapped = .named key' args →
      Barren source Blank (key :: trail) key') :
    Barren source Blank trail key := by
  -- along the way the search stands either at `key` or at a key that is barren without it
  have run : ∀ k r', Above source trail k r' →
      k = key ∨ Barren source Blank (key :: trail) k → Blank r' := by
    intro k r' above
    induction above with
    | @here k r' fresh lookup' =>
      intro hk
      by_cases hkey : k = key
      · subst hkey
        rw [lookup] at lookup'
        cases lookup'
        exact blank
      · have := hk.resolve_left hkey
        exact this r' (.here (by simp [hkey, fresh]) lookup')
    | @up k key' p r' base args fresh lookup' hbase named above' ih =>
      intro hk
      by_cases hkey : k = key
      · subst hkey
        rw [lookup] at lookup'
        cases lookup'
        exact ih (.inr (bases base hbase key' args named))
      · have hbarren := hk.resolve_left hkey
        refine ih (.inr fun r'' above'' => hbarren r'' ?_)
        exact .up (by simp [hkey, fresh]) lookup' hbase named above''
  exact fun r' above => run key r' above (.inl rfl)

/-- A key that is barren when `more` is avoided is barren when only `avoid` is, if the keys left out
are barren themselves. -/
theorem Barren.of_more {avoid more : List TypeKey}
    (left_out : ∀ k ∈ more, k ∉ avoid → Barren source Blank avoid k)
    (h : Barren source Blank more key) : Barren source Blank avoid key := by
  intro r above
  induction above with
  | @here k r fresh lookup =>
    by_cases hk : k ∈ more
    · exact left_out k hk fresh r (.here fresh lookup)
    · exact h r (.here hk lookup)
  | @up k key' p r base args fresh lookup hbase named above' ih =>
    by_cases hk : k ∈ more
    · exact left_out k hk fresh r (.up fresh lookup hbase named above')
    · exact ih fun r' above'' => h r' (.up hk lookup hbase named above'')

/-! ## What is looked for -/

section

variable {β : Type} {pick : RecordDef × Scope → Option β}
  (blank_iff : ∀ r scope, pick (r, scope) = none ↔ Blank r)

include blank_iff

/-- A base that leads to a barren key brings nothing that is looked for. -/
theorem Barren.findSome?_branch {trail : List TypeKey} {scope : Scope} {base : TypeExpr}
    {key : TypeKey} {args : List TypeExpr} (named : base.unwrapped = .named key args)
    (barren : Barren source Blank trail key) :
    (source.branch trail scope base).findSome? pick = none := by
  rcases source.leads_cases trail base with ⟨_, _, r, leads⟩ | idle
  · cases named.symm.trans leads.named
    rw [branch_of_leads leads, List.findSome?_cons,
      (blank_iff r _).mpr (barren r (.here leads.fresh leads.lookup)), List.findSome?_eq_none_iff]
    intro p hp
    obtain ⟨base', hbase, hp⟩ := List.mem_flatMap.mp hp
    -- what brings `p` is named itself, and above the key
    rcases source.leads_cases (key :: trail) base' with ⟨key', _, _, leads'⟩ | idle
    · have barren' : Barren source Blank (key :: trail) key' := by
        intro r' above
        refine barren r' (.up leads.fresh leads.lookup hbase leads'.named (above.mono ?_))
        exact fun k hk => List.mem_cons_of_mem _ hk
      exact List.findSome?_eq_none_iff.mp (barren'.findSome?_branch leads'.named) p hp
    · rw [branch_of_idle idle] at hp
      cases hp
  · rw [branch_of_idle idle]
    rfl
termination_by source.unvisited trail
decreasing_by exact leads.unvisited_lt

/-- A base that brings nothing that is looked for leads to a barren key. -/
theorem Barren.of_findSome?_branch {trail : List TypeKey} {scope : Scope} {base : TypeExpr}
    {key : TypeKey} {args : List TypeExpr} (named : base.unwrapped = .named key args)
    (nothing : (source.branch trail scope base).findSome? pick = none) :
    Barren source Blank trail key := by
  rcases source.leads_cases trail base with ⟨_, _, r, leads⟩ | idle
  · cases named.symm.trans leads.named
    rw [branch_of_leads leads, List.findSome?_eq_none_iff] at nothing
    refine Barren.of_bases leads.lookup ((blank_iff r _).mp (nothing _ (.head _))) ?_
    intro base' hbase key' args' named'
    have nothing' : (source.branch (key :: trail) (inheritScope scope r args) base').findSome?
        pick = none := by
      rw [List.findSome?_eq_none_iff]
      exact fun p hp => nothing p (.tail _ (List.mem_flatMap.mpr ⟨base', hbase, hp⟩))
    exact Barren.of_findSome?_branch named' nothing'
  · intro r above
    cases above with
    | here fresh lookup => exact absurd ⟨named, fresh, lookup⟩ (idle key args r)
    | up fresh lookup _ _ _ => exact absurd ⟨named, fresh, lookup⟩ (idle key args _)
termination_by source.unvisited trail
decreasing_by exact leads.unvisited_lt

/-! ## The search with visited keys -/

/-- A base that is still to be searched, with the scope of its heir and the keys on the way to
it. -/
structure Pending where
  base : TypeExpr
  scope : Scope
  trail : List TypeKey

/-- What a pending base brings. -/
def Pending.branch (source : Registry) (p : Pending) : List (RecordDef × Scope) :=
  source.branch p.trail p.scope p.base

/-- The invariant of the search. A visited key that is not on the way to a pending base is barren
there, once all that is pending before that base has been searched in vain. -/
structure Exhausted (source : Registry) (Blank : RecordDef → Prop)
    (pick : RecordDef × Scope → Option β) (visited : List TypeKey) (pending : List Pending) :
    Prop where
  trail_visited : ∀ p ∈ pending, ∀ k ∈ p.trail, k ∈ visited
  barren : ∀ before p after, pending = before ++ p :: after →
    (∀ q ∈ before, (q.branch source).findSome? pick = none) →
    ∀ k ∈ visited, k ∉ p.trail → Barren source Blank p.trail k

omit blank_iff in
/-- What has not been visited is not on the way either. -/
theorem Exhausted.leads_trail {visited : List TypeKey} {p : Pending} {rest : List Pending}
    {key : TypeKey} {args : List TypeExpr} {r : RecordDef}
    (inv : Exhausted source Blank pick visited (p :: rest))
    (leads : source.Leads visited p.base key args r) : source.Leads p.trail p.base key args r :=
  ⟨leads.named, fun h => leads.fresh (inv.trail_visited p (.head _) key h), leads.lookup⟩

omit blank_iff in
/-- A pending base that brings nothing can be dropped. -/
theorem Exhausted.drop {visited : List TypeKey} {p : Pending} {rest : List Pending}
    (inv : Exhausted source Blank pick visited (p :: rest))
    (nothing : (p.branch source).findSome? pick = none) :
    Exhausted source Blank pick visited rest where
  trail_visited q hq := inv.trail_visited q (.tail _ hq)
  barren before q after heq hbefore := by
    refine inv.barren (p :: before) q after (by rw [heq]; rfl) ?_
    intro q' hq'
    rcases List.mem_cons.mp hq' with rfl | hq'
    · exact nothing
    · exact hbefore q' hq'

/-- The invariant is kept when a record that has nothing is replaced by its bases. -/
theorem Exhausted.expand {visited : List TypeKey} {p : Pending} {rest : List Pending}
    {key : TypeKey} {args : List TypeExpr} {r : RecordDef}
    (inv : Exhausted source Blank pick visited (p :: rest))
    (leads : source.Leads visited p.base key args r) (blank : Blank r) :
    Exhausted source Blank pick (key :: visited)
      (r.bases.map (⟨·, inheritScope p.scope r args, key :: p.trail⟩) ++ rest) where
  trail_visited q hq k hk := by
    rcases List.mem_append.mp hq with hq | hq
    · obtain ⟨base, _, rfl⟩ := List.mem_map.mp hq
      rcases List.mem_cons.mp hk with rfl | hk
      · exact .head _
      · exact .tail _ (inv.trail_visited p (.head _) k hk)
    · exact .tail _ (inv.trail_visited q (.tail _ hq) k hk)
  barren before q after heq hbefore k hk hkq := by
    -- the key itself and what was visited before, for a base that was pending before
    have old : ∀ before', rest = before' ++ q :: after →
        (∀ b ∈ r.bases, (source.branch (key :: p.trail) (inheritScope p.scope r args) b).findSome?
          pick = none) →
        (∀ q' ∈ before', (q'.branch source).findSome? pick = none) →
        Barren source Blank q.trail k := by
      intro before' hrest hbases hbefore'
      have nothing : (p.branch source).findSome? pick = none := by
        unfold Pending.branch
        rw [branch_of_leads (inv.leads_trail leads), List.findSome?_cons,
          (blank_iff r _).mpr blank, List.findSome?_eq_none_iff]
        intro x hx
        obtain ⟨b, hb, hx⟩ := List.mem_flatMap.mp hx
        exact List.findSome?_eq_none_iff.mp (hbases b hb) x hx
      have visited_barren : ∀ k' ∈ visited, k' ∉ q.trail → Barren source Blank q.trail k' := by
        refine inv.barren (p :: before') q after (by rw [hrest]; rfl) ?_
        intro q' hq'
        rcases List.mem_cons.mp hq' with rfl | hq'
        · exact nothing
        · exact hbefore' q' hq'
      rcases List.mem_cons.mp hk with rfl | hk
      · have hkey : Barren source Blank p.trail k :=
          Barren.of_findSome?_branch blank_iff leads.named nothing
        refine hkey.of_more fun k' hk' hkq' => ?_
        exact visited_barren k' (inv.trail_visited p (.head _) k' hk') hkq'
      · exact visited_barren k hk hkq
    rcases List.append_eq_append_iff.mp heq with ⟨before', hb, hrest⟩ | ⟨mid, hmap, hafter⟩
    · refine old before' hrest ?_ fun q' hq' => hbefore q' ?_
      · intro b hb'
        refine hbefore ⟨b, _, _⟩ ?_
        rw [hb]
        exact List.mem_append_left _ (List.mem_map_of_mem hb')
      · rw [hb]
        exact List.mem_append_right _ hq'
    · cases mid with
      | nil =>
        refine old [] hafter.symm ?_ fun q' hq' => by cases hq'
        intro b hb'
        refine hbefore ⟨b, _, _⟩ ?_
        rw [List.append_nil] at hmap
        rw [← hmap]
        exact List.mem_map_of_mem hb'
      | cons q' mid =>
        -- the base is one of the record's: nothing new is avoided but the key
        have hq : q ∈ r.bases.map (⟨·, inheritScope p.scope r args, key :: p.trail⟩) := by
          rw [hmap]
          injection hafter with hqq _
          rw [hqq]
          exact List.mem_append_right _ (.head _)
        obtain ⟨base, _, rfl⟩ := List.mem_map.mp hq
        have hkey : k ≠ key := fun h => hkq (h ▸ .head _)
        have hvisited := (List.mem_cons.mp hk).resolve_left hkey
        refine Barren.mono (fun k' hk' => .tail _ hk') ?_
        exact inv.barren [] p rest rfl (fun q' hq' => by cases hq') k hvisited
          (fun h => hkq (.tail _ h))

/-- Searching with one list of visited keys finds what the plain reading finds. -/
theorem findSome?_ancestryFrom (pending : List Pending) (visited : List TypeKey)
    (inv : Exhausted source Blank pick visited pending) :
    (source.ancestryFrom inheritScope (pending.map fun p => (p.base, p.scope)) visited).findSome?
      pick = (pending.flatMap (Pending.branch source)).findSome? pick := by
  match pending, inv with
  | [], _ =>
    rw [List.map_nil, ancestryFrom, List.flatMap_nil]
  | p :: rest, inv =>
    -- a base that brings nothing and that the search passes over
    have pass : (p.branch source).findSome? pick = none →
        source.ancestryFrom inheritScope ((p :: rest).map fun p => (p.base, p.scope)) visited =
          source.ancestryFrom inheritScope (rest.map fun p => (p.base, p.scope)) visited →
        (source.ancestryFrom inheritScope ((p :: rest).map fun p => (p.base, p.scope))
            visited).findSome? pick =
          ((p :: rest).flatMap (Pending.branch source)).findSome? pick := by
      intro nothing skip
      rw [skip, findSome?_ancestryFrom rest visited (inv.drop nothing), List.flatMap_cons,
        List.findSome?_append, nothing, Option.none_or]
    rcases source.leads_cases visited p.base with ⟨key, args, r, leads⟩ | idle
    · rw [List.map_cons, ancestryFrom_of_leads leads, List.flatMap_cons, Pending.branch,
        branch_of_leads (inv.leads_trail leads), List.cons_append, List.findSome?_cons,
        List.findSome?_cons]
      cases found : pick (r, inheritScope p.scope r args) with
      | some b => rfl
      | none =>
        have blank : Blank r := (blank_iff r _).mp found
        have := findSome?_ancestryFrom _ _ (inv.expand blank_iff leads blank)
        rw [List.map_append, List.map_map, List.flatMap_append, List.flatMap_map] at this
        exact this
    · refine pass ?_ (ancestryFrom_of_idle idle)
      -- the plain reading may still follow the base, but only to a barren key
      rcases source.leads_cases p.trail p.base with ⟨key, args, r, leads⟩ | idle'
      · have seen : key ∈ visited := Decidable.byContradiction fun fresh =>
          idle key args r ⟨leads.named, fresh, leads.lookup⟩
        refine Barren.findSome?_branch blank_iff leads.named ?_
        exact inv.barren [] p rest rfl (fun q hq => by cases hq) key seen leads.fresh
      · rw [Pending.branch, branch_of_idle idle']
        rfl
termination_by (source.unvisited visited, pending.length)
decreasing_by
  · exact .right _ (Nat.lt_succ_self _)
  · exact .left _ _ leads.unvisited_lt

end

/-- Whatever is looked up by its first occurrence is found in the lineage of a record as in its
heritage. What is looked for must not depend on the scope it is found in. -/
theorem findSome?_lineage {β : Type} {pick : RecordDef × Scope → Option β}
    (blank_iff : ∀ r scope scope', pick (r, scope) = none ↔ pick (r, scope') = none) :
    (source.lineage scope r).findSome? pick = (source.heritage scope r).findSome? pick := by
  have inv : Exhausted source (fun r => ∀ scope, pick (r, scope) = none) pick []
      (r.bases.map (⟨·, scope, []⟩)) :=
    { trail_visited := by
        intro p hp k hk
        obtain ⟨base, _, rfl⟩ := List.mem_map.mp hp
        cases hk
      barren := fun _ _ _ _ _ k hk => by cases hk }
  have search := findSome?_ancestryFrom (fun r scope =>
    ⟨fun h scope' => (blank_iff r scope scope').mp h, fun h => h scope⟩) _ _ inv
  rw [List.map_map, List.flatMap_map] at search
  rw [lineage, heritage, List.findSome?_cons, List.findSome?_cons]
  cases pick (r, scope) with
  | some b => rfl
  | none => exact search

/-! ## Fields and further members -/

/-- The first of a record's own fields of that name, in the scope of its type. -/
def ownField (name : String) (p : RecordDef × Scope) : Option (FieldDef × Scope) :=
  (p.1.fields.find? (·.name = name)).map (·, p.2)

/-- The field of that name that the bases of a record bring, with the scope of its type. -/
def inheritedField (source : Registry) (scope : Scope) (r : RecordDef) (name : String) :
    Option (FieldDef × Scope) :=
  (r.bases.flatMap (source.branch [] scope)).findSome? (ownField name)

/-- The field of that name with the scope of its type: the record's own, else the first that a base
brings. -/
def fieldOf (source : Registry) (scope : Scope) (r : RecordDef) (name : String) :
    Option (FieldDef × Scope) :=
  (ownField name (r, scope)).or (source.inheritedField scope r name)

/-- The type of further members and its scope: the record's own, else the first that a base
brings. -/
def extraOf (source : Registry) (scope : Scope) (r : RecordDef) : Option (TypeExpr × Scope) :=
  (source.heritage scope r).findSome? fun p => p.1.extra.map (·, p.2)

theorem findSome?_cons_eq_or {α β : Type} {pick : α → Option β} {a : α} {l : List α} :
    (a :: l).findSome? pick = (pick a).or (l.findSome? pick) := by
  rw [List.findSome?_cons]
  cases pick a <;> rfl

theorem findSome?_flatMap {α β γ : Type} {pick : β → Option γ} {f : α → List β} {l : List α} :
    (l.flatMap f).findSome? pick = l.findSome? fun a => (f a).findSome? pick := by
  induction l with
  | nil => rfl
  | cons a rest ih =>
    rw [List.flatMap_cons, List.findSome?_append, ih, findSome?_cons_eq_or]

theorem fieldOf_eq_findSome? {name : String} :
    source.fieldOf scope r name = (source.heritage scope r).findSome? (ownField name) :=
  findSome?_cons_eq_or.symm

theorem fieldOf_of_no_bases {name : String} (bases : r.bases = []) :
    source.fieldOf scope r name = (r.fields.find? (·.name = name)).map (·, scope) := by
  rw [fieldOf, inheritedField, bases, List.flatMap_nil, List.findSome?_nil, Option.or_none]
  rfl

theorem name_of_ownField {name : String} {p : RecordDef × Scope} {f : FieldDef} {inner : Scope}
    (h : ownField name p = some (f, inner)) : f.name = name ∧ inner = p.2 := by
  obtain ⟨f', hf', heq⟩ := Option.map_eq_some_iff.mp h
  cases heq
  exact ⟨by simpa using List.find?_some hf', rfl⟩

theorem name_of_fieldOf {name : String} {f : FieldDef} {inner : Scope}
    (h : source.fieldOf scope r name = some (f, inner)) : f.name = name := by
  rw [fieldOf_eq_findSome?] at h
  obtain ⟨p, _, hp⟩ := List.exists_of_findSome?_eq_some h
  exact (name_of_ownField hp).1

/-- The fields kept are the first ones of their names. -/
theorem ShapeField.mem_firstOfName {f : ShapeField Scope} {fields : List (ShapeField Scope)} :
    f ∈ ShapeField.firstOfName fields ↔ fields.find? (·.name = f.name) = some f := by
  induction fields with
  | nil => simp [ShapeField.firstOfName]
  | cons g rest ih =>
    rw [ShapeField.firstOfName, List.mem_cons, List.mem_filter, ih, List.find?_cons]
    by_cases hname : g.name = f.name
    · simp only [hname, decide_true, Option.some.injEq]
      constructor
      · rintro (rfl | ⟨_, hne⟩)
        · rfl
        · simp at hne
      · rintro rfl
        exact .inl rfl
    · have hne : f ≠ g := fun h => hname (h ▸ rfl)
      simp [hname, hne, Ne.symm hname]

theorem shape_extra : (source.shape scope r).extra = source.extraOf scope r := by
  show (source.lineage scope r).findSome? (fun p => p.1.extra.map (·, p.2)) = _
  exact findSome?_lineage fun r scope scope' => by simp only [Option.map_eq_none_iff]

/-- The first field of a name among those of the lineage. -/
theorem find?_lineage_fields (name : String) :
    ((source.lineage scope r).flatMap fun p => p.1.fields.map (.ofField p.2)).find?
        (fun f : ShapeField Scope => f.name = name) =
      (source.fieldOf scope r name).map fun p => .ofField p.2 p.1 := by
  have first : (source.lineage scope r).findSome? (ownField name) =
      source.fieldOf scope r name := by
    rw [fieldOf_eq_findSome?]
    exact findSome?_lineage fun r scope scope' => by simp only [ownField, Option.map_eq_none_iff]
  rw [← first, List.find?_flatMap, List.map_findSome?]
  congr 1
  funext p
  rw [List.find?_map, Function.comp_apply, ownField, Option.map_map]
  rfl

theorem mem_shape_fields {f : ShapeField Scope} :
    f ∈ (source.shape scope r).fields ↔
      ∃ d inner, source.fieldOf scope r f.name = some (d, inner) ∧ f = .ofField inner d := by
  rw [shape, ShapeField.mem_firstOfName, find?_lineage_fields, Option.map_eq_some_iff]
  constructor
  · rintro ⟨⟨d, inner⟩, hfield, rfl⟩
    exact ⟨d, inner, hfield, rfl⟩
  · rintro ⟨d, inner, hfield, rfl⟩
    exact ⟨(d, inner), hfield, rfl⟩

theorem hasField_shape_eq_false {name : String} :
    (source.shape scope r).hasField name = false ↔ source.fieldOf scope r name = none := by
  rw [Shape.hasField, List.any_eq_false]
  constructor
  · intro none_named
    cases hfield : source.fieldOf scope r name with
    | none => rfl
    | some p =>
      have hname := name_of_fieldOf hfield
      refine absurd ?_ (none_named (.ofField p.2 p.1) (mem_shape_fields.mpr ⟨p.1, p.2, ?_, rfl⟩))
      · exact decide_eq_true hname
      · rw [← hfield]
        simp only [ShapeField.ofField, hname]
  · intro hnone f hf
    obtain ⟨d, inner, hfield, _⟩ := mem_shape_fields.mp hf
    intro hname
    rw [of_decide_eq_true hname, hnone] at hfield
    cases hfield

end Registry

end SchemaDialogue
