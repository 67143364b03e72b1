import SchemaDialogue.Proofs.Arises
import SchemaDialogue.Proofs.Members
import SchemaDialogue.Proofs.Redeclared
import SchemaDialogue.Proofs.Walk

/-!
# What an heir takes from its bases

The declaration of a record lists its bases in an `extends` clause, whatever they refer to. A reader
of the declaration expects the heir to have the properties of each base. The shape that values are
checked against goes by the references that name a record directly:

* **fields**: the names in a shape are those of the record and of the records that such references
  lead to (`hasField_shape_iff`), so the properties of a base are properties of its heirs;
* **findings**: only a member without a field is ever found not to be permitted
  (`hasField_of_notPermitted`), and a required field that is missing is always found
  (`fieldMissing_mem_check`);
* **required fields**: what comes first for the base comes first for the heir, where neither the
  heir nor an earlier base has the name, as long as the base is not above itself
  (`requires_of_base`).

Both parts of the promise hold for a base that names a record (`inherits_of_named`). A base that
names an alias of one is declared all the same and brings nothing (`not_inherits_of_resolves`).
-/

namespace SchemaDialogue

/-- The shape has a field of that name that may not be left out. -/
def Shape.Requires (s : Shape Scope) (name : String) : Prop :=
  ∃ f ∈ s.fields, f.name = name ∧ f.optional = false

/-- A record has a field of that name itself. -/
def RecordDef.Declares (r : RecordDef) (name : String) : Prop := ∃ f ∈ r.fields, f.name = name

namespace Registry

/-- A record has a field of that name itself, or one of its bases names a record that has. -/
inductive Carries (source : Registry) (name : String) : RecordDef → Prop
  | own {r} : r.Declares name → Carries source name r
  | inherited {r base key args p} : base ∈ r.bases → base.unwrapped = .named key args →
      source.lookup key = some (.record p) → Carries source name p → Carries source name r

variable {source : Registry} {scope : Scope} {name : String} {r p : RecordDef} {key : TypeKey}
  {base : TypeExpr}

/-! ## Names in a shape -/

theorem ownField_eq_none : ownField name (r, scope) = none ↔ ¬r.Declares name := by
  unfold ownField RecordDef.Declares
  rw [Option.map_eq_none_iff, List.find?_eq_none]
  simp

/-- A key has something above it exactly when its record carries the name. -/
theorem barren_iff (lookup : source.lookup key = some (.record p)) :
    Barren source (fun r => ¬r.Declares name) [] key ↔ ¬source.Carries name p := by
  constructor
  · intro barren carries
    induction carries generalizing key with
    | own declares => exact barren _ (.here List.not_mem_nil lookup) declares
    | inherited mem named lookup' _ ih =>
      exact ih lookup' fun q above => barren q (.up List.not_mem_nil lookup mem named above)
  · intro carries q above
    induction above generalizing p with
    | here _ lookup' =>
      cases lookup.symm.trans lookup'
      exact fun declares => carries (.own declares)
    | up _ lookup' mem named above ih =>
      cases lookup.symm.trans lookup'
      -- the next key is described, or nothing would be above it
      obtain ⟨q', lookup''⟩ : ∃ q', source.lookup _ = some (.record q') := by
        cases above with
        | here _ lookup'' => exact ⟨_, lookup''⟩
        | up _ lookup'' _ _ _ => exact ⟨_, lookup''⟩
      exact ih lookup'' fun carries' => carries (.inherited mem named lookup'' carries')

theorem findSome?_branch_eq_none :
    (source.branch [] scope base).findSome? (ownField name) = none ↔
      ∀ key args p, base.unwrapped = .named key args → source.lookup key = some (.record p) →
        ¬source.Carries name p := by
  constructor
  · intro nothing key args p named lookup
    rw [← barren_iff lookup]
    exact Barren.of_findSome?_branch (fun _ _ => ownField_eq_none) named nothing
  · intro none
    rcases source.leads_cases [] base with ⟨key, args, p, leads⟩ | idle
    · refine Barren.findSome?_branch (fun _ _ => ownField_eq_none) leads.named ?_
      exact (barren_iff leads.lookup).mpr (none key args p leads.named leads.lookup)
    · rw [branch_of_idle idle]
      rfl

/-- The names in a shape do not depend on the scope. -/
theorem hasField_shape_iff :
    (source.shape scope r).hasField name = true ↔ source.Carries name r := by
  have absent : (source.shape scope r).hasField name = false ↔ ¬source.Carries name r := by
    rw [hasField_shape_eq_false, fieldOf, inheritedField, Option.or_eq_none_iff, ownField_eq_none,
      findSome?_flatMap, List.findSome?_eq_none_iff]
    constructor
    · rintro ⟨own, bases⟩ carries
      cases carries with
      | own declares => exact own declares
      | inherited mem named lookup carries =>
        exact findSome?_branch_eq_none.mp (bases _ mem) _ _ _ named lookup carries
    · intro carries
      refine ⟨fun declares => carries (.own declares), fun base mem => ?_⟩
      rw [findSome?_branch_eq_none]
      exact fun key args p named lookup above => carries (.inherited mem named lookup above)
  rw [← not_iff_not, Bool.not_eq_true, absent]

/-! ## Required fields -/

/-- The records that a base brings do not depend on the scope. -/
theorem map_fst_branch (trail : List TypeKey) (scope scope' : Scope) (base : TypeExpr) :
    (source.branch trail scope base).map Prod.fst =
      (source.branch trail scope' base).map Prod.fst := by
  rcases source.leads_cases trail base with ⟨key, args, p, leads⟩ | idle
  · rw [branch_of_leads leads, branch_of_leads leads, List.map_cons, List.map_cons,
      List.map_flatMap, List.map_flatMap]
    congr 1
    exact List.flatMap_congr fun base' _ => map_fst_branch _ _ _ base'
  · rw [branch_of_idle idle, branch_of_idle idle]
termination_by source.unvisited trail
decreasing_by exact leads.unvisited_lt

/-- The field of a name does not depend on the scope, only the scope of its type does. -/
theorem map_fst_fieldOf (scope scope' : Scope) :
    (source.fieldOf scope r name).map Prod.fst = (source.fieldOf scope' r name).map Prod.fst := by
  have records : ∀ scope, (source.fieldOf scope r name).map Prod.fst =
      ((source.heritage scope r).map Prod.fst).findSome? fun q =>
        q.fields.find? (·.name = name) := by
    intro scope
    rw [fieldOf_eq_findSome?, List.map_findSome?, List.findSome?_map]
    congr 1
    funext q
    rw [Function.comp_apply, ownField, Option.map_map]
    exact Option.map_id'
  rw [records, records, heritage, heritage, List.map_cons, List.map_cons, List.map_flatMap,
    List.map_flatMap]
  congr 2
  exact List.flatMap_congr fun base' _ => map_fst_branch _ _ _ base'

theorem requires_shape_iff :
    (source.shape scope r).Requires name ↔
      ∃ f, (source.fieldOf scope r name).map Prod.fst = some f ∧ f.isOptional = false := by
  constructor
  · rintro ⟨f, mem, rfl, required⟩
    obtain ⟨d, inner, found, rfl⟩ := mem_shape_fields.mp mem
    refine ⟨d, ?_, required⟩
    show (source.fieldOf scope r d.name).map Prod.fst = some d
    rw [show source.fieldOf scope r d.name = some (d, inner) from found, Option.map_some]
  · rintro ⟨d, found, required⟩
    obtain ⟨⟨d', inner⟩, field, rfl⟩ := Option.map_eq_some_iff.mp found
    obtain rfl := name_of_fieldOf field
    exact ⟨.ofField inner d', mem_shape_fields.mpr ⟨d', inner, field, rfl⟩, rfl, required⟩

/-- A base brings what is found first in the record that it names, unless that is above itself. -/
theorem findSome?_branch_of_named {args : List TypeExpr} (named : base.unwrapped = .named key args)
    (lookup : source.lookup key = some (.record p))
    (acyclic : ¬Relation.TransGen (Extends source) key key) :
    (source.branch [] scope base).findSome? (ownField name) =
      source.fieldOf (inheritScope scope p args) p name := by
  have leads : source.Leads [] base key args p := ⟨named, List.not_mem_nil, lookup⟩
  have above : p.bases.flatMap (source.branch [key] (inheritScope scope p args)) =
      p.bases.flatMap (source.branch [] (inheritScope scope p args)) := by
    refine List.flatMap_congr fun base' mem => branch_congr fun k args' k' named' path => ?_
    have up : Relation.TransGen (Extends source) key k' :=
      .head' ⟨p, base', args', lookup, mem, named'⟩ path
    have other : k' ∉ [key] := by
      rw [List.mem_singleton]
      rintro rfl
      exact acyclic up
    exact ⟨iff_of_false other List.not_mem_nil, .inr rfl⟩
  rw [branch_of_leads leads, above, fieldOf_eq_findSome?]
  rfl

/-- What a base requires is required of its heirs, unless the heir or an earlier base has a field of
that name. -/
theorem requires_of_base {before after : List TypeExpr} {args : List TypeExpr} {scope' : Scope}
    (bases : r.bases = before ++ base :: after) (named : base.unwrapped = .named key args)
    (lookup : source.lookup key = some (.record p))
    (acyclic : ¬Relation.TransGen (Extends source) key key)
    (required : (source.shape scope' p).Requires name) (undeclared : ¬r.Declares name)
    (first : ∀ b ∈ before, ∀ k args q, b.unwrapped = .named k args →
      source.lookup k = some (.record q) → ¬source.Carries name q) :
    (source.shape scope r).Requires name := by
  obtain ⟨f, found, present⟩ := requires_shape_iff.mp required
  rw [map_fst_fieldOf _ (inheritScope scope p args),
    ← findSome?_branch_of_named named lookup acyclic] at found
  have earlier : before.findSome? (fun b => (source.branch [] scope b).findSome? (ownField name)) =
      none := by
    rw [List.findSome?_eq_none_iff]
    exact fun b mem => findSome?_branch_eq_none.mpr (first b mem)
  refine requires_shape_iff.mpr ⟨f, ?_, present⟩
  rw [fieldOf, ownField_eq_none.mpr undeclared, Option.none_or, inheritedField, findSome?_flatMap,
    bases, List.findSome?_append, earlier, Option.none_or, findSome?_cons_eq_or, Option.map_or,
    found, Option.some_or]

/-! ## Findings about members -/

variable {left : Nat} {value item : Json} {args : List TypeExpr} {members : Entries Json}

/-- A finding about an object held against a record is about the value of a member, about a field
that is missing, or about a member that is not permitted. -/
theorem mem_check_record {f : Finding} (lookup : source.lookup key = some (.record r))
    (h : f ∈ source.check scope (left + 1) (.named key args) (.object members)) :
    let shape := source.shape (scope.enterRecord key r.typeParams args) r
    (∃ segment scope' left' t item,
      f ∈ (source.check scope' left' t item).map (Finding.within segment)) ∨
    (∃ d ∈ shape.fields, f = ⟨[d.name], .object members, .fieldMissing⟩) ∨
    ∃ name item, shape.hasField name = false ∧ f = ⟨[name], item, .notPermitted⟩ := by
  intro shape
  rw [check_record_object lookup] at h
  rcases List.mem_append.mp h with h | h
  · obtain ⟨d, mem, h⟩ := List.mem_flatMap.mp h
    unfold fieldFindings at h
    split at h
    · exact .inl ⟨_, _, _, _, _, h⟩
    · by_cases optional : d.optional = true
      · rw [if_pos optional] at h
        cases h
      · rw [if_neg optional] at h
        exact .inr (.inl ⟨d, mem, List.mem_singleton.mp h⟩)
  · obtain ⟨⟨name, item⟩, _, h⟩ := List.mem_flatMap.mp h
    unfold memberFindings at h
    cases further : shape.hasField name with
    | true =>
      rw [if_pos further] at h
      cases h
    | false =>
      rw [if_neg (by rw [further]; exact Bool.false_ne_true)] at h
      split at h
      · exact .inl ⟨_, _, _, _, _, h⟩
      · exact .inr (.inr ⟨name, item, further, List.mem_singleton.mp h⟩)

/-- A finding that something is not permitted is about a member, never about the value itself. -/
def Placed (f : Finding) : Prop := f.cause = .notPermitted → f.path ≠ []

theorem placed_of_arises {f : Finding} (h : f.Arises value) : Placed f := by
  intro permitted
  cases h with
  | here other => exact absurd permitted other
  | _ => exact List.cons_ne_nil _ _

theorem placed_check (scope : Scope) (left : Nat) (t : TypeExpr) (value : Json) :
    ∀ f ∈ source.check scope left t value, Placed f :=
  fun f hf => placed_of_arises (arises_of_mem_check scope left t value f hf)

/-- Only a member that the shape has no field for is found not to be permitted. -/
theorem hasField_of_notPermitted (lookup : source.lookup key = some (.record r))
    (h : ⟨[name], item, .notPermitted⟩ ∈ source.check scope left (.named key args) value) :
    (source.shape (scope.enterRecord key r.typeParams args) r).hasField name = false := by
  cases left with
  | zero =>
    rw [check] at h
    cases List.mem_singleton.mp h
  | succ left =>
    cases value with
    | object members =>
      rcases mem_check_record lookup h with ⟨_, _, _, _, _, h⟩ | ⟨d, _, same⟩ | further
      · -- a finding inside of a member has a longer path
        obtain ⟨g, hg, same⟩ := List.mem_map.mp h
        rw [Finding.within, Finding.mk.injEq] at same
        obtain ⟨path, _, cause⟩ := same
        exact absurd (List.cons.inj path).2 (placed_check _ _ _ _ g hg cause)
      · cases same
      · obtain ⟨_, _, absent, same⟩ := further
        cases same
        exact absent
    | _ =>
      rw [check_record_of_ne lookup (by simp)] at h
      cases List.mem_singleton.mp h

/-- A required field that is missing is found. -/
theorem fieldMissing_mem_check (lookup : source.lookup key = some (.record r))
    (required : (source.shape (scope.enterRecord key r.typeParams args) r).Requires name)
    (missing : members.find? name = none) :
    ⟨[name], .object members, .fieldMissing⟩ ∈
      source.check scope (left + 1) (.named key args) (.object members) := by
  obtain ⟨f, mem, rfl, present⟩ := required
  rw [check_record_object lookup]
  refine List.mem_append_left _ (List.mem_flatMap.mpr ⟨f, mem, ?_⟩)
  rw [fieldFindings, missing, present]
  exact List.mem_singleton.mpr rfl

/-! ## What a base promises -/

/-- The reference resolves to the record, directly or through aliases. -/
inductive Resolves (source : Registry) : TypeExpr → TypeKey → RecordDef → Prop
  | record {t key args r} : t.unwrapped = .named key args →
      source.lookup key = some (.record r) → Resolves source t key r
  | aliased {t key args a key' r} : t.unwrapped = .named key args →
      source.lookup key = some (.aliased a) → Resolves source a.target key' r →
      Resolves source t key' r

/-- The properties of `p` are permitted in `r`, which is described under `key`. -/
structure Admits (source : Registry) (key : TypeKey) (r p : RecordDef) : Prop where
  fields : ∀ scope scope' name, (source.shape scope p).hasField name = true →
    (source.shape scope' r).hasField name = true
  permitted : ∀ scope scope' left args value name item,
    (source.shape scope p).hasField name = true →
    ⟨[name], item, .notPermitted⟩ ∉ source.check scope' left (.named key args) value

/-- The required properties of `p` are required of `r`, which is described under `key`, unless `r`
or one of the bases `before` has a property of that name. -/
structure Demands (source : Registry) (key : TypeKey) (r : RecordDef) (before : List TypeExpr)
    (p : RecordDef) : Prop where
  fields : ∀ scope scope' name, (source.shape scope p).Requires name → ¬r.Declares name →
    (∀ b ∈ before, ∀ k q, source.Resolves b k q →
      (source.shape scope q).hasField name = false) →
    (source.shape scope' r).Requires name
  found : ∀ scope scope' left args members name, (source.shape scope p).Requires name →
    ¬r.Declares name →
    (∀ b ∈ before, ∀ k q, source.Resolves b k q →
      (source.shape scope q).hasField name = false) →
    Entries.find? members name = none →
    ⟨[name], .object members, .fieldMissing⟩ ∈
      source.check scope' (left + 1) (.named key args) (.object members)

/-- A base that names a record keeps its promise: its properties are permitted, and those that it
requires are required, where the record is not above itself. -/
theorem inherits_of_named (source : Registry) (key key' : TypeKey) (r p : RecordDef)
    (before after : List TypeExpr) (base : TypeExpr) (args : List TypeExpr)
    (described : source.lookup key = some (.record r)) (bases : r.bases = before ++ base :: after)
    (named : base.unwrapped = .named key' args) (lookup : source.lookup key' = some (.record p)) :
    source.Admits key r p ∧
      (¬Relation.TransGen (Extends source) key' key' → source.Demands key r before p) := by
  have mem : base ∈ r.bases := by
    rw [bases]
    exact List.mem_append_right _ (.head _)
  have fields : ∀ scope scope' name, (source.shape scope p).hasField name = true →
      (source.shape scope' r).hasField name = true := by
    intro scope scope' name carried
    have above := hasField_shape_iff.mp carried
    exact hasField_shape_iff.mpr (.inherited mem named lookup above)
  constructor
  · refine ⟨fields, fun scope scope' left args value name item carried finding => ?_⟩
    have absent := hasField_of_notPermitted described finding
    rw [fields scope _ name carried] at absent
    cases absent
  · intro acyclic
    have required : ∀ scope scope' name, (source.shape scope p).Requires name → ¬r.Declares name →
        (∀ b ∈ before, ∀ k q, source.Resolves b k q →
          (source.shape scope q).hasField name = false) →
        (source.shape scope' r).Requires name := by
      intro scope scope' name needed undeclared first
      apply requires_of_base bases named lookup acyclic needed undeclared
      intro b hb k args q named' lookup' carries
      have absent := first b hb k q (.record named' lookup')
      rw [hasField_shape_iff.mpr carries] at absent
      cases absent
    refine ⟨required, ?_⟩
    intro scope scope' left args members name needed undeclared first missing
    exact fieldMissing_mem_check described (required scope _ name needed undeclared first) missing

/-! ## A base under another name -/

/-- A record with one field. -/
def itemDef : RecordDef := { name := "Item", fields := [{ name := "id", type := .string }] }

/-- A record that extends what a key stands for. -/
def extending (name : String) (key : TypeKey) : RecordDef :=
  { name := name, bases := [.named key []] }

/-- An item, a handle for it, and an heir of each. -/
def handles : Registry :=
  ⟨[("Item", .record itemDef),
    ("Handle", .aliased { name := "Handle", target := .named "Item" [] }),
    ("Heir", .record (extending "Heir" "Item")),
    ("Holder", .record (extending "Holder" "Handle"))], []⟩

theorem inherits_of_named_item :
    handles.Admits "Heir" (extending "Heir" "Item") itemDef ∧
      handles.Demands "Heir" (extending "Heir" "Item") [] itemDef := by
  have promise := inherits_of_named handles "Heir" "Item" (extending "Heir" "Item") itemDef [] []
    (.named "Item" []) [] rfl rfl rfl rfl
  have acyclic : ¬Relation.TransGen (Extends handles) "Item" "Item" := by
    intro cycle
    obtain ⟨_, ⟨_, _, _, described, mem, _⟩, _⟩ := Relation.TransGen.head'_iff.mp cycle
    cases described
    cases mem
  exact ⟨promise.1, promise.2 acyclic⟩

/-- The holder, the handle and the item are declared without an error. -/
theorem graph_handles : (Graph.build handles "Holder").errors = [] ∧
    "Holder" ∈ (Graph.build handles "Holder").declarations.keys := by
  have item : handles.references "Item" = [] ∧ handles.errors "Item" = [] := by
    constructor
    · show RecordDef.references handles itemDef = []
      rw [RecordDef.references, RecordDef.ownFields_of_no_bases rfl]
      rfl
    · show RecordDef.errors handles itemDef = []
      rw [RecordDef.errors, RecordDef.ownFields_of_no_bases rfl]
      rfl
  have holder : handles.references "Holder" = ["Handle"] := rfl
  have handle : handles.references "Handle" = ["Item"] := rfl
  have steps : Graph.build handles "Holder" =
      ((((({} : Graph.Walk).declare handles "Holder").declare handles "Handle").declare handles
        "Item").graph) := by
    rw [Graph.build, Graph.Walk.run, dif_pos List.not_mem_nil, dif_pos (by decide), holder]
    show (Graph.Walk.run handles ["Handle"] _).graph = _
    rw [Graph.Walk.run, dif_pos (by decide), dif_pos (by decide), handle]
    show (Graph.Walk.run handles ["Item"] _).graph = _
    rw [Graph.Walk.run, dif_pos (by decide), dif_pos (by decide), item.1]
    show (Graph.Walk.run handles [] _).graph = _
    rw [Graph.Walk.run]
  rw [steps]
  constructor
  · show [] ++ handles.errors "Item" = []
    rw [item.2]
    rfl
  · exact .head _

/-- The condition is needed. A record that has a handle of another as its base is declared to extend
the handle, and the fields of the other are not permitted in it. -/
theorem not_inherits_of_resolves :
    ¬∀ (source : Registry) (root key key' : TypeKey) (r p : RecordDef)
      (before after : List TypeExpr) (base : TypeExpr),
      (Graph.build source root).errors = [] →
      key ∈ (Graph.build source root).declarations.keys →
      source.lookup key = some (.record r) → r.bases = before ++ base :: after →
      source.Resolves base key' p →
      source.Admits key r p ∧ source.Demands key r before p := by
  intro h
  have resolves : handles.Resolves (.named "Handle" []) "Item" itemDef :=
    .aliased rfl rfl (.record rfl rfl)
  have promise := h handles "Holder" "Holder" "Item" (extending "Holder" "Handle") itemDef [] [] _
    graph_handles.1 graph_handles.2 rfl rfl resolves
  have above : handles.Carries "id" itemDef := .own ⟨_, .head _, rfl⟩
  have carried := promise.1.fields .empty .empty "id" (hasField_shape_iff.mpr above)
  -- the only base of the holder names no record
  cases hasField_shape_iff.mp carried with
  | own declares =>
    obtain ⟨_, mem, _⟩ := declares
    cases mem
  | inherited mem named lookup _ =>
    cases List.mem_singleton.mp mem
    cases named
    cases lookup

end Registry

end SchemaDialogue
