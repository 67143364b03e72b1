import Mathlib.Data.List.Find
import SchemaDialogue.Proofs.Redeclared

/-!
# The linearization of an ancestry

The plain account of what a record inherits keeps no list of visited records: each base is expanded
depth first, in the order of the bases, with its parameters bound to the arguments seen along the
way and with `self` kept as the derived record. It comes to an end where no record inherits from
itself (`Acyclic`). A record that is reached along two ways occurs twice, perhaps with different
arguments.

The shape of a record holds the first field of each name and the first type for further members of
this list (`shape_eq_linearization`). So the search that passes over visited records loses nothing:

* **order**: of two lists of fields, the first ones of each name are the same in the same order
  when the lists agree on the first field outside of every set of names (`firstOfName_congr`);
* **occurrences**: first fields in this sense are found by the search as by the plain reading with
  a trail, `heritage`, however records inherit;
* **trail**: without cycles the trail never stops an expansion (`branch_eq_expansion`).
-/

namespace SchemaDialogue

namespace Registry

variable {source : Registry} {scope : Scope} {base : TypeExpr} {key : TypeKey}
  {args : List TypeExpr} {r : RecordDef}

/-! ## The plain expansion -/

/-- No record inherits from itself. -/
def Acyclic (source : Registry) : Prop := ∀ key, ¬Relation.TransGen (Extends source) key key

/-- The type is one of the bases of the record that another type refers to. -/
def IsBaseOf (source : Registry) (base heir : TypeExpr) : Prop :=
  ∃ key args r, heir.unwrapped = .named key args ∧ source.lookup key = some (.record r) ∧
    base ∈ r.bases

/-- Where no record inherits from itself, the ways from base to base come to an end. -/
theorem Acyclic.wellFounded (acyclic : source.Acyclic) : WellFounded source.IsBaseOf := by
  -- the described types that are not on the way to a key become fewer
  have run : ∀ n (trail : List TypeKey) key args (heir : TypeExpr), source.unvisited trail = n →
      heir.unwrapped = .named key args →
      (∀ k ∈ trail, Relation.TransGen (Extends source) k key) → Acc source.IsBaseOf heir := by
    intro n
    induction n using Nat.strongRecOn with
    | ind n ih =>
      intro trail key args heir count named below
      refine .intro _ fun base isBase => ?_
      obtain ⟨key', args', r, named', lookup, mem⟩ := isBase
      cases named.symm.trans named'
      have fresh : key ∉ trail := fun h => acyclic key (below key h)
      by_cases refers : ∃ next nextArgs, base.unwrapped = .named next nextArgs
      · obtain ⟨next, nextArgs, namedNext⟩ := refers
        have step : Extends source key next := ⟨r, base, nextArgs, lookup, mem, namedNext⟩
        refine ih _ (count ▸ unvisited_lt (mem_keys_of_find? lookup) fresh) (key :: trail) next
          nextArgs base rfl namedNext ?_
        intro k hk
        rcases List.mem_cons.mp hk with rfl | hk
        · exact .single step
        · exact (below k hk).tail step
      · refine .intro _ fun _ isBase' => ?_
        obtain ⟨next, nextArgs, _, namedNext, _⟩ := isBase'
        exact absurd ⟨next, nextArgs, namedNext⟩ refers
  refine ⟨fun heir => ?_⟩
  by_cases refers : ∃ key args, heir.unwrapped = .named key args
  · obtain ⟨key, args, named⟩ := refers
    exact run _ [] key args heir rfl named fun _ h => by cases h
  · refine .intro _ fun _ isBase => ?_
    obtain ⟨key, args, _, named, _⟩ := isBase
    exact absurd ⟨key, args, named⟩ refers

/-- Ranks that fall from each record to its bases leave no room for a cycle. -/
theorem acyclic_of_rank (rank : TypeKey → Nat)
    (falls : ∀ k k', Extends source k k' → rank k' < rank k) : source.Acyclic := by
  have path : ∀ k k', Relation.TransGen (Extends source) k k' → rank k' < rank k := by
    intro k k' h
    induction h with
    | single step => exact falls _ _ step
    | tail _ step ih => exact Nat.lt_trans (falls _ _ step) ih
  exact fun key cycle => Nat.lt_irrefl _ (path key key cycle)

/-- A base expanded depth first: the record that it refers to, with the parameters bound and `self`
kept, and then what the bases of that record expand to. -/
def expansion (source : Registry) (acyclic : source.Acyclic) (scope : Scope) (base : TypeExpr) :
    List (RecordDef × Scope) :=
  match _ : base.unwrapped with
  | .named key args =>
    match _ : source.lookup key with
    | some (.record r) =>
      let inner := scope.enter r.typeParams args
      (r, inner) :: r.bases.attach.flatMap fun ⟨next, _⟩ => expansion source acyclic inner next
    | _ => []
  | _ => []
termination_by acyclic.wellFounded.wrap base
decreasing_by exact ⟨key, args, r, ‹_›, ‹_›, ‹_›⟩

/-- A record and all that its bases expand to. -/
def linearization (source : Registry) (acyclic : source.Acyclic) (scope : Scope) (r : RecordDef) :
    List (RecordDef × Scope) :=
  (r, scope) :: r.bases.flatMap (source.expansion acyclic scope)

theorem expansion_of_record (acyclic : source.Acyclic) (named : base.unwrapped = .named key args)
    (lookup : source.lookup key = some (.record r)) :
    source.expansion acyclic scope base =
      (r, scope.enter r.typeParams args) ::
        r.bases.flatMap (source.expansion acyclic (scope.enter r.typeParams args)) := by
  rw [expansion]
  split
  · rename_i key' args' named'
    cases named.symm.trans named'
    split
    · rename_i r' lookup'
      cases lookup.symm.trans lookup'
      dsimp only
      rw [List.flatMap_subtype (g := source.expansion acyclic _) fun _ _ => rfl,
        List.unattach_attach]
    · rename_i other
      exact absurd lookup (other r)
  · rename_i other
    exact absurd named (other key args)

/-- A base that refers to no record expands to nothing. -/
theorem expansion_of_no_record (acyclic : source.Acyclic)
    (other : ∀ key args r, base.unwrapped = .named key args →
      source.lookup key ≠ some (.record r)) : source.expansion acyclic scope base = [] := by
  rw [expansion]
  split
  · rename_i key args named
    split
    · rename_i r lookup
      exact absurd lookup (other key args r named)
    · rfl
  · rfl

/-- The trail that keeps the plain reading from going round in cycles does not change anything where
there are none. -/
theorem branch_eq_expansion (acyclic : source.Acyclic) (trail : List TypeKey) (scope : Scope)
    (base : TypeExpr) (below : ∀ k ∈ trail, ∀ key args, base.unwrapped = .named key args →
      Relation.TransGen (Extends source) k key) :
    source.branch trail scope base = source.expansion acyclic scope base := by
  induction base using acyclic.wellFounded.induction generalizing trail scope with
  | _ base ih =>
    rcases source.leads_cases trail base with ⟨key, args, r, leads⟩ | idle
    · rw [branch_of_leads leads, expansion_of_record acyclic leads.named leads.lookup]
      refine congrArg _ (List.flatMap_congr fun next mem => ?_)
      have isBase : source.IsBaseOf next _ := ⟨key, args, r, leads.named, leads.lookup, mem⟩
      refine ih next isBase _ _ fun k hk key' args' named' => ?_
      have step : Extends source key key' := ⟨r, next, args', leads.lookup, mem, named'⟩
      rcases List.mem_cons.mp hk with rfl | hk
      · exact .single step
      · exact (below k hk key args leads.named).tail step
    · rw [branch_of_idle idle, expansion_of_no_record acyclic]
      intro key args r named lookup
      have fresh : key ∉ trail := fun hk => acyclic key (below key hk key args named)
      exact idle key args r ⟨named, fresh, lookup⟩

theorem heritage_eq_linearization (acyclic : source.Acyclic) (scope : Scope) (r : RecordDef) :
    source.heritage scope r = source.linearization acyclic scope r := by
  refine congrArg _ (List.flatMap_congr fun base _ => ?_)
  exact branch_eq_expansion acyclic [] scope base fun k hk => by cases hk

end Registry

/-! ## The first fields of each name -/

namespace ShapeField

/-- Outside of every set of names, the fields kept start as all fields do. -/
theorem find?_firstOfName (names : List String) (fields : List (ShapeField Scope)) :
    (firstOfName fields).find? (·.name ∉ names) = fields.find? (·.name ∉ names) := by
  induction fields with
  | nil => rfl
  | cons f rest ih =>
    rw [firstOfName, List.find?_cons, List.find?_cons]
    by_cases named : f.name ∈ names
    · -- a field of the name of `f` is not looked for
      have skip : ∀ g : ShapeField Scope, g.name ∉ names → g.name ≠ f.name :=
        fun g other same => other (same ▸ named)
      simp only [named, not_true_eq_false, decide_false]
      rw [List.find?_filter, ← ih]
      congr 1
      funext g
      by_cases other : g.name ∉ names
      · simp [other, skip g other]
      · simp [other]
    · simp only [named, not_false_eq_true, decide_true]

theorem nodup_firstOfName (fields : List (ShapeField Scope)) :
    ((firstOfName fields).map (·.name)).Nodup := by
  induction fields with
  | nil => exact List.nodup_nil
  | cons f rest ih =>
    rw [firstOfName, List.map_cons, List.nodup_cons]
    refine ⟨?_, ih.sublist (List.filter_sublist.map _)⟩
    rw [List.mem_map]
    rintro ⟨g, mem, same⟩
    exact of_decide_eq_true (List.mem_filter.mp mem).2 same

/-- Fields of distinct names are determined by the first one outside of each set of names. -/
theorem eq_of_find? {fields fields' : List (ShapeField Scope)}
    (distinct : (fields.map (·.name)).Nodup) (distinct' : (fields'.map (·.name)).Nodup)
    (same : ∀ names : List String,
      fields.find? (·.name ∉ names) = fields'.find? (·.name ∉ names)) : fields = fields' := by
  have drop : ∀ (f : ShapeField Scope) (rest : List (ShapeField Scope)) (names : List String),
      ((f :: rest).map (·.name)).Nodup →
      (f :: rest).find? (·.name ∉ f.name :: names) = rest.find? (·.name ∉ names) := by
    intro f rest names distinct
    rw [List.find?_cons_of_neg (by simp)]
    refine List.find?_congr fun g mem => ?_
    have other : g.name ≠ f.name := fun h =>
      (List.nodup_cons.mp distinct).1 (List.mem_map.mpr ⟨g, mem, h⟩)
    simp [other]
  induction fields generalizing fields' with
  | nil =>
    cases fields' with
    | nil => rfl
    | cons f' rest' => exact absurd (same []) (by simp)
  | cons f rest ih =>
    cases fields' with
    | nil => exact absurd (same []) (by simp)
    | cons f' rest' =>
      obtain rfl : f = f' := by simpa using same []
      refine congrArg _ (ih (List.nodup_cons.mp distinct).2 (List.nodup_cons.mp distinct').2 ?_)
      intro names
      rw [← drop f rest names distinct, ← drop f rest' names distinct', same]

/-- Lists that agree on the first field outside of each set of names have the same first fields of
each name, in the same order. -/
theorem firstOfName_congr {fields fields' : List (ShapeField Scope)} (same : ∀ names : List String,
    fields.find? (·.name ∉ names) = fields'.find? (·.name ∉ names)) :
    firstOfName fields = firstOfName fields' := by
  refine eq_of_find? (nodup_firstOfName _) (nodup_firstOfName _) fun names => ?_
  rw [find?_firstOfName, find?_firstOfName, same]

end ShapeField

namespace Registry

variable {source : Registry} {scope : Scope} {r : RecordDef}

/-- The first field that passes a test of names, among those of records with their scopes. -/
theorem find?_fields (test : String → Bool) (records : List (RecordDef × Scope)) :
    (records.flatMap fun p => p.1.fields.map (.ofField p.2)).find?
        (fun f : ShapeField Scope => test f.name) =
      records.findSome? fun p =>
        (p.1.fields.find? (fun f => test f.name)).map (.ofField p.2) := by
  rw [List.find?_flatMap]
  congr 1
  funext p
  rw [List.find?_map]
  rfl

/-- The fields of a shape are the first of each name in the plain reading, also where records
inherit from themselves. -/
theorem shape_fields (source : Registry) (scope : Scope) (r : RecordDef) :
    (source.shape scope r).fields = ShapeField.firstOfName
      ((source.heritage scope r).flatMap fun p => p.1.fields.map (.ofField p.2)) := by
  refine ShapeField.firstOfName_congr fun names => ?_
  rw [find?_fields (fun name => decide (name ∉ names)),
    find?_fields (fun name => decide (name ∉ names))]
  exact findSome?_lineage fun r scope scope' => by simp only [Option.map_eq_none_iff]

/-- **The shape of a record is the linearization of its ancestry, the first of each name counting.**
Where no record inherits from itself, the shape has the first field of each name among those that
the bases bring when they are expanded depth first, without regard to what has been visited, in this
order and with the scopes seen along the way; and the first type for further members. So the names
in a shape are distinct, and no name is lost. -/
theorem shape_eq_linearization (source : Registry) (acyclic : source.Acyclic) (scope : Scope)
    (r : RecordDef) :
    let plain := source.linearization acyclic scope r
    source.shape scope r =
      { fields := ShapeField.firstOfName (plain.flatMap fun p => p.1.fields.map (.ofField p.2))
        extra := plain.findSome? fun p => p.1.extra.map (·, p.2) } ∧
    ((source.shape scope r).fields.map (·.name)).Nodup ∧
    ∀ p ∈ plain, ∀ f ∈ p.1.fields, (source.shape scope r).hasField f.name = true := by
  intro plain
  have fields := shape_fields source scope r
  have extra : (source.shape scope r).extra = _ := shape_extra
  rw [extraOf] at extra
  rw [heritage_eq_linearization acyclic] at fields extra
  refine ⟨?_, ?_, fun p mem f own => ?_⟩
  · show Shape.mk (source.shape scope r).fields (source.shape scope r).extra = _
    rw [fields, extra]
  · rw [fields]
    exact ShapeField.nodup_firstOfName _
  · cases named : (source.shape scope r).hasField f.name with
    | true => rfl
    | false =>
      rw [hasField_shape_eq_false, fieldOf_eq_findSome?, List.findSome?_eq_none_iff] at named
      rw [show plain = source.heritage scope r from
        (heritage_eq_linearization acyclic ..).symm] at mem
      have absent := List.find?_eq_none.mp (Option.map_eq_none_iff.mp (named p mem)) f own
      exact absurd (decide_eq_true rfl) absent

/-! ## A record reached along two ways -/

/-- A record with a parameter. -/
def topDef : RecordDef :=
  { name := "Top", typeParams := ["T"],
    fields := [{ name := "value", type := .var "T" }, { name := "id", type := .string }] }

/-- An heir of it. -/
def leftDef : RecordDef := { name := "Left", bases := [.named "Top" [.string]] }

/-- Another heir, with another argument. -/
def rightDef : RecordDef :=
  { name := "Right", bases := [.named "Top" [.number]], fields := [{ name := "id", type := .any }],
    extra := some .boolean }

/-- An heir of both. -/
def bottomDef : RecordDef :=
  { name := "Bottom", bases := [.named "Left" [], .named "Right" []],
    fields := [{ name := "next", type := .self, optional := true }] }

/-- The records that the heir of both inherits from. -/
def diamond : Registry :=
  ⟨[("Top", .record topDef), ("Left", .record leftDef), ("Right", .record rightDef)], []⟩

theorem acyclic_diamond : diamond.Acyclic := by
  refine acyclic_of_rank (fun key => if key = "Top" then 0 else 1) fun k k' extends' => ?_
  obtain ⟨r, base, args, lookup, mem, named⟩ := extends'
  have listed : (k, TypeDef.record r) ∈ diamond.types := Entries.mem_of_find? lookup
  rcases List.mem_cons.mp listed with same | listed
  · cases same
    cases mem
  · rcases List.mem_cons.mp listed with same | listed
    · cases same
      cases List.mem_singleton.mp mem
      cases named
      decide
    · cases List.mem_singleton.mp listed
      cases List.mem_singleton.mp mem
      cases named
      decide

/-- The top is expanded twice; in the shape its fields have the argument of the first way. -/
theorem shape_diamond :
    (diamond.linearization acyclic_diamond .empty bottomDef).map (·.1.name) =
      ["Bottom", "Left", "Top", "Right", "Top"] ∧
    (diamond.shape .empty bottomDef).fields.map (fun f => (f.name, f.scope.substitute f.type)) =
      [("next", .any), ("value", .string), ("id", .string)] ∧
    (diamond.shape .empty bottomDef).extra.map (·.1) = some .boolean := by
  have top : ∀ scope args, diamond.expansion acyclic_diamond scope (.named "Top" args) =
      [(topDef, scope.enter ["T"] args)] := fun scope args => expansion_of_record _ rfl rfl
  have left : diamond.expansion acyclic_diamond .empty (.named "Left" []) = _ :=
    expansion_of_record _ rfl rfl
  have right : diamond.expansion acyclic_diamond .empty (.named "Right" []) = _ :=
    expansion_of_record _ rfl rfl
  have plain : diamond.linearization acyclic_diamond .empty bottomDef =
      [(bottomDef, .empty), (leftDef, .empty), (topDef, Scope.empty.enter ["T"] [.string]),
        (rightDef, .empty), (topDef, Scope.empty.enter ["T"] [.number])] := by
    rw [linearization, bottomDef, List.flatMap_cons, List.flatMap_cons, left, right, leftDef,
      rightDef, List.flatMap_cons, List.flatMap_cons, top, top]
    rfl
  rw [(shape_eq_linearization diamond acyclic_diamond .empty bottomDef).1, plain]
  exact ⟨rfl, rfl, rfl⟩

end Registry

end SchemaDialogue
