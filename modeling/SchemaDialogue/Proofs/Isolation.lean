import SchemaDialogue.Conform.Validate
import SchemaDialogue.Proofs.Confinement
import SchemaDialogue.Proofs.Verdict

/-!
# Findings are local without unions

Where no union is reached, what is found at one place of a document says nothing about any other
place: two documents that differ in the value at one place have the same findings elsewhere, with
the same wordings and in the same order (`Registry.outside_findings`).

* **differences**: `Json.DiffersAt` follows a path through objects and arrays that are otherwise the
  same;
* **outside**: `outside` keeps the findings that are not at the place or below it;
* **compound values**: the findings about an object or an array are those of its parts, in a row,
  and all but one part are the same.
-/

namespace SchemaDialogue

namespace Json

/-- The values differ in what stands at the place, and in nothing else. -/
inductive DiffersAt : List String → Json → Json → Prop
  | here (v w : Json) : DiffersAt [] v w
  | member (before : List (String × Json)) (name : String) (after : List (String × Json))
      {place v w} : DiffersAt place v w →
      DiffersAt (name :: place) (.object (before ++ (name, v) :: after))
        (.object (before ++ (name, w) :: after))
  | item (before after : List Json) {place v w} : DiffersAt place v w →
      DiffersAt (toString before.length :: place) (.array (before ++ v :: after))
        (.array (before ++ w :: after))

namespace DiffersAt

variable {segment : String} {place : List String} {v w : Json}

/-- Above the place the values are of the same kinds. -/
theorem admits_eq (h : DiffersAt (segment :: place) v w) (kind : Kind) :
    kind.admits v = kind.admits w := by
  cases h <;> cases kind <;> rfl

theorem isNull_eq (h : DiffersAt (segment :: place) v w) : v.isNull = w.isNull := by
  cases h <;> rfl

theorem literal_admits_eq (h : DiffersAt (segment :: place) v w) (l : Literal) :
    l.admits v = l.admits w := by
  cases h <;> cases l <;> rfl

end DiffersAt

end Json

/-! ## Findings elsewhere -/

/-- The findings that are neither at the place nor below it, each with its path and its wording. -/
def outside (place : List String) (found : List Finding) : List (List String × String) :=
  (found.filter (!place.isPrefixOf ·.path)).map fun f => (f.path, f.violation.message)

section

variable {segment : String} {place : List String} {found found' : List Finding}

theorem outside_root : outside [] found = [] := by
  rw [outside, List.filter_eq_nil_iff.mpr (by simp), List.map_nil]

theorem outside_append : outside place (found ++ found') =
    outside place found ++ outside place found' := by
  rw [outside, List.filter_append, List.map_append, ← outside, ← outside]

/-- The value that a finding blames is no part of it. -/
theorem outside_singleton (path : List String) (v w : Json) (cause : Cause) :
    outside place [⟨path, v, cause⟩] = outside place [⟨path, w, cause⟩] := by
  simp only [outside, List.filter_cons]
  split <;> rfl

theorem outside_here (v w : Json) (cause : Cause) :
    outside place [.here v cause] = outside place [.here w cause] :=
  outside_singleton [] v w cause

theorem outside_unlessKind {kind : Kind} {v w : Json} (same : kind.admits v = kind.admits w) :
    outside place (Finding.unlessKind kind v) = outside place (Finding.unlessKind kind w) := by
  rw [Finding.unlessKind, Finding.unlessKind, same]
  split
  · rfl
  · exact outside_here v w _

/-- One level further out, the same findings are elsewhere. -/
theorem outside_within (same : outside place found = outside place found') :
    outside (segment :: place) (found.map (·.within segment)) =
      outside (segment :: place) (found'.map (·.within segment)) := by
  have further : ∀ found : List Finding,
      outside (segment :: place) (found.map (·.within segment)) =
        (outside place found).map fun p => (segment :: p.1, p.2) := by
    intro found
    have prefixes : ((fun f : Finding => !(segment :: place).isPrefixOf f.path) ∘
        fun f => f.within segment) = fun f : Finding => !place.isPrefixOf f.path := by
      funext f
      simp [Finding.within, List.isPrefixOf]
    rw [outside, outside, List.filter_map, prefixes, List.map_map, List.map_map]
    rfl
  rw [further, further, same]

theorem outside_flatMap_congr {α : Type} {l : List α} {g g' : α → List Finding}
    (same : ∀ a ∈ l, outside place (g a) = outside place (g' a)) :
    outside place (l.flatMap g) = outside place (l.flatMap g') := by
  induction l with
  | nil => rfl
  | cons a rest ih =>
    obtain ⟨first, others⟩ := List.forall_mem_cons.mp same
    rw [List.flatMap_cons, List.flatMap_cons, outside_append, outside_append, first, ih others]

/-- In a row of parts, only what is found about one of them can make a difference. -/
theorem outside_flatMap_around {α : Type} {g : α → List Finding} {a b : α}
    (same : outside place (g a) = outside place (g b)) (before after : List α) :
    outside place ((before ++ a :: after).flatMap g) =
      outside place ((before ++ b :: after).flatMap g) := by
  simp only [List.flatMap_append, List.flatMap_cons, outside_append, same]

/-- The same for parts that are numbered. -/
theorem outside_zipIdx_around {α : Type} {g : α × Nat → List Finding} {a b : α}
    {before : List α} (same : outside place (g (a, before.length)) =
      outside place (g (b, before.length))) (after : List α) :
    outside place ((before ++ a :: after).zipIdx.flatMap g) =
      outside place ((before ++ b :: after).zipIdx.flatMap g) := by
  simp only [List.zipIdx_append, List.zipIdx_cons, Nat.zero_add]
  exact outside_flatMap_around same _ _

end

namespace Registry

variable {source : Registry} {scope : Scope} {left : Nat}

/-! ## One part that differs -/

/-- What is under a key differs only where it is the value that differs. -/
theorem find?_around (before : Entries Json) (name : String) (v w : Json) (after : Entries Json)
    (key : String) :
    Entries.find? (before ++ (name, v) :: after) key =
        Entries.find? (before ++ (name, w) :: after) key ∨
      key = name ∧ Entries.find? (before ++ (name, v) :: after) key = some v ∧
        Entries.find? (before ++ (name, w) :: after) key = some w := by
  simp only [Entries.find?, List.lookup_append, List.lookup_cons]
  cases List.lookup key before with
  | some item => exact .inl rfl
  | none =>
    by_cases same : key = name
    · subst same
      simp
    · exact .inl (by simp only [beq_eq_false_iff_ne.mpr same])

/-- An item that differs has an element of a tuple beside it, or comes after the last of these. -/
theorem zip_around (elements : List TypeExpr) (before : List Json) (v w : Json)
    (after : List Json) :
    elements.zip (before ++ v :: after) = elements.zip (before ++ w :: after) ∨
      ∃ paired e rest, paired.length = before.length ∧ e ∈ elements ∧
        elements.zip (before ++ v :: after) = paired ++ (e, v) :: rest ∧
        elements.zip (before ++ w :: after) = paired ++ (e, w) :: rest := by
  induction elements generalizing before with
  | nil => exact .inl rfl
  | cons e elements ih =>
    cases before with
    | nil => exact .inr ⟨[], e, elements.zip after, rfl, .head _, rfl, rfl⟩
    | cons item before =>
      simp only [List.cons_append, List.zip_cons_cons]
      rcases ih before with same | ⟨paired, e', rest, length, mem, left, right⟩
      · exact .inl (by rw [same])
      · refine .inr ⟨(e, item) :: paired, e', rest, ?_, .tail _ mem, ?_, ?_⟩
        · rw [List.length_cons, List.length_cons, length]
        · rw [left, List.cons_append]
        · rw [right, List.cons_append]

section

variable {P : TypeExpr → Prop} {segment : String} {place : List String} {value value' : Json}

-- what the check follows: the same is found elsewhere in smaller values
variable (smaller : ∀ (scope : Scope) (left : Nat) (t : TypeExpr) (part : Json),
  part.size < value.size → ∀ (place : List String) (part' : Json), part.DiffersAt place part' →
    scope.Confined P → P t →
      outside place (source.check scope left t part) =
        outside place (source.check scope left t part'))

include smaller

theorem outside_record (c : source.Confines P) {key : TypeKey} {args : List TypeExpr}
    {r : RecordDef} (lookup : source.lookup key = some (.record r)) (inside : scope.Confined P)
    (type : P (.named key args)) (differs : value.DiffersAt (segment :: place) value') :
    outside (segment :: place) (source.check scope (left + 1) (.named key args) value) =
      outside (segment :: place) (source.check scope (left + 1) (.named key args) value') := by
  have types := c.definition type lookup
  have inner : (scope.enterRecord key r.typeParams args).Confined P := c.enterRecord inside type
  cases differs with
  | @member before _ after _ v w below =>
    have small : v.size < (Json.object (before ++ (segment, v) :: after)).size :=
      Json.size_lt_of_mem_object (List.mem_append_right before (.head after))
    rw [check_record_object lookup, check_record_object lookup, outside_append, outside_append]
    refine congrArg₂ _ (outside_flatMap_congr fun f hf => ?field)
      (outside_flatMap_around ?further _ _)
    case field =>
      -- a field is missing in both objects or in neither
      obtain ⟨fieldType, fieldScope⟩ := c.field inner types hf
      unfold fieldFindings
      rcases find?_around before segment v w after f.name with same | ⟨named, found, found'⟩
      · rw [same]
        cases Entries.find? (before ++ (segment, w) :: after) f.name with
        | some item => rfl
        | none =>
          dsimp only
          split
          · rfl
          · exact outside_singleton _ _ _ _
      · rw [found, found', named]
        exact outside_within (smaller _ _ _ v small place w below fieldScope fieldType)
    case further =>
      unfold memberFindings
      split
      · rfl
      · split
        · rename_i extra innermost opened
          obtain ⟨extraType, extraScope⟩ := c.extra inner types opened
          exact outside_within (smaller _ _ _ v small place w below extraScope extraType)
        · exact outside_singleton _ _ _ _
  | item before after below =>
    rw [check_record_of_ne lookup (by simp), check_record_of_ne lookup (by simp)]
    exact outside_here _ _ _

theorem outside_map {key element : Option TypeExpr} (inside : scope.Confined P)
    (elements : ∀ t, element = some t → P t) (differs : value.DiffersAt (segment :: place) value') :
    outside (segment :: place) (source.check scope left (.map key element) value) =
      outside (segment :: place) (source.check scope left (.map key element) value') := by
  cases differs with
  | @member before _ after _ v w below =>
    have small : v.size < (Json.object (before ++ (segment, v) :: after)).size :=
      Json.size_lt_of_mem_object (List.mem_append_right before (.head after))
    have entry : outside (segment :: place) (source.entryFindings scope key element (segment, v)) =
        outside (segment :: place) (source.entryFindings scope key element (segment, w)) := by
      -- the name is the same, so only what is found about the item could differ
      refine outside_within ((outside_append.trans (congrArg _ ?_)).trans outside_append.symm)
      cases element with
      | none => rfl
      | some t => exact smaller _ _ _ v small place w below inside (elements t rfl)
    rw [check_map_object, check_map_object]
    exact outside_flatMap_around entry _ _
  | item before after below =>
    rw [check_map_of_ne (by simp), check_map_of_ne (by simp)]
    exact outside_here _ _ _

theorem outside_list {element : TypeExpr} (inside : scope.Confined P) (type : P element)
    (differs : value.DiffersAt (segment :: place) value') :
    outside (segment :: place) (source.check scope left (.list (some element)) value) =
      outside (segment :: place) (source.check scope left (.list (some element)) value') := by
  cases differs with
  | member before name after below =>
    rw [check_list_of_ne (by simp), check_list_of_ne (by simp)]
    exact outside_here _ _ _
  | @item before after _ v w below =>
    have small : v.size < (Json.array (before ++ v :: after)).size :=
      Json.size_lt_of_mem_array (List.mem_append_right before (.head after))
    rw [check_list_array, check_list_array]
    exact outside_zipIdx_around
      (outside_within (smaller _ _ _ v small place w below inside type)) after

theorem outside_tuple {elements : List TypeExpr} (inside : scope.Confined P)
    (types : ∀ t ∈ elements, P t) (differs : value.DiffersAt (segment :: place) value') :
    outside (segment :: place) (source.check scope left (.tuple elements) value) =
      outside (segment :: place) (source.check scope left (.tuple elements) value') := by
  cases differs with
  | member before name after below =>
    rw [check_tuple_of_ne (by simp), check_tuple_of_ne (by simp)]
    exact outside_here _ _ _
  | @item before after _ v w below =>
    have small : v.size < (Json.array (before ++ v :: after)).size :=
      Json.size_lt_of_mem_array (List.mem_append_right before (.head after))
    have items : (before ++ v :: after).length = (before ++ w :: after).length := by
      rw [List.length_append, List.length_append, List.length_cons, List.length_cons]
    rw [check_tuple_array, check_tuple_array, outside_append, outside_append, items]
    refine congrArg₂ _ ?_ ?_
    · split
      · rfl
      · exact outside_here _ _ _
    · rcases zip_around elements before v w after with
        same | ⟨paired, e, rest, length, mem, left, right⟩
      · rw [same]
      · rw [left, right, ← length]
        exact outside_zipIdx_around
          (outside_within (smaller _ _ _ v small place w below inside (types e mem))) rest

end

/-! ## The check -/

/-- What is found elsewhere does not depend on the value at a place, as long as the check does not
come to a union. -/
theorem outside_check {P : TypeExpr → Prop} (c : source.Confines P)
    (free : ∀ members, ¬P (.union members)) (scope : Scope) (left : Nat) (t : TypeExpr)
    (value : Json) : ∀ (place : List String) (value' : Json), value.DiffersAt place value' →
      scope.Confined P → P t →
        outside place (source.check scope left t value) =
          outside place (source.check scope left t value') := by
  induction scope, left, t, value using check_induction with
  | step scope left t value smaller fewer closed component =>
  intro place value' differs inside type
  cases place with
  | nil => rw [outside_root, outside_root]
  | cons segment place =>
  -- both values are of one kind, so leaves, and arrays and objects where the other was wanted, find
  -- the same; only the compound forms go on to the parts
  cases t with
  | required inner =>
    rw [check_required, check_required]
    exact component left inner (Nat.le_refl _) .required _ _ differs inside
      (c.part type (.required .refl))
  | notRequired inner =>
    rw [check_notRequired, check_notRequired]
    exact component left inner (Nat.le_refl _) .notRequired _ _ differs inside
      (c.part type (.notRequired .refl))
  | documented doc inner =>
    rw [check_documented, check_documented]
    exact component left inner (Nat.le_refl _) .documented _ _ differs inside
      (c.part type (.documented .refl))
  | self =>
    cases this : scope.this with
    | none => rw [check_self_of_none this, check_self_of_none this]
    | some bound =>
      rw [check_self_of_some this, check_self_of_some this]
      exact closed _ bound (Nat.sub_le _ _) rfl _ _ differs inside (inside.this bound this)
  | var name =>
    cases found : scope.bindings.find? name with
    | none => rw [check_var_of_none found, check_var_of_none found]
    | some bound =>
      rw [check_var_of_some found, check_var_of_some found]
      exact closed _ bound (Nat.sub_le _ _) rfl _ _ differs inside
        (inside.bindings name bound found)
  | union members => exact absurd type (free members)
  | named key args =>
    cases left with
    | zero =>
      rw [check, check]
      exact outside_here _ _ _
    | succ left =>
      cases lookup : source.lookup key with
      | none => rw [check_undescribed lookup, check_undescribed lookup]
      | some d =>
        cases d with
        | opaqueType name =>
          rw [check, check, lookup]
          exact outside_unlessKind (differs.admits_eq _)
        | aliased a =>
          rw [check_aliased lookup, check_aliased lookup]
          exact fewer _ _ _ (Nat.lt_succ_self _) _ _ differs
            (c.enter inside fun _ ha => c.part type (.named ha .refl))
            (c.definition type lookup a.target (.head _))
        | record r => exact outside_record smaller c lookup inside type differs
  | list element =>
    cases element with
    | none =>
      rw [check, check]
      exact outside_unlessKind (differs.admits_eq _)
    | some element =>
      exact outside_list smaller inside (c.part type (.list .refl)) differs
  | variadic element =>
    rw [check_variadic_eq_list, check_variadic_eq_list]
    exact outside_list smaller inside (c.part type (.variadic .refl)) differs
  | tuple elements =>
    exact outside_tuple smaller inside (fun t mem => c.part type (.tuple mem .refl)) differs
  | map key element =>
    refine outside_map smaller inside (fun t some => c.part type ?_) differs
    rw [some]
    exact .value .refl
  | any => rw [check, check]
  | never =>
    rw [check, check]
    exact outside_here _ _ _
  | null =>
    rw [check, check, differs.isNull_eq]
    split
    · rfl
    · exact outside_here _ _ _
  | literal choices =>
    have admits : choices.any (·.admits value) = choices.any (·.admits value') :=
      congrArg choices.any (funext differs.literal_admits_eq)
    rw [check, check, admits]
    split
    · rfl
    · exact outside_here _ _ _
  | _ =>
    rw [check, check]
    exact outside_unlessKind (differs.admits_eq _)

/-- Where no union is reached, two values that differ at one place have the same findings elsewhere,
in the same order. -/
theorem outside_findings (source : Registry) (t : TypeExpr) (free : source.UnionFree t)
    (place : List String) (v w : Json) (differs : v.DiffersAt place w) :
    outside place (source.findings t v) = outside place (source.findings t w) :=
  outside_check free.confines (fun members unionless => unionless.unions members .refl)
    .empty expansionLimit t v place w differs Scope.confined_empty (free.unionless .root)

/-- A shelf with further shelves on it. -/
def shelf : RecordDef where
  name := "Shelf"
  fields := [⟨"width", .integer, false, none⟩,
    ⟨"shelves", .list (some (.named "Shelf" [])), true, none⟩]

theorem unionFree_shelves :
    UnionFree ⟨[("Shelf", .record shelf)], []⟩ (.reference "Shelf") := by
  intro members mentions
  have among : ∀ t, Mentions ⟨[("Shelf", .record shelf)], []⟩ (.reference "Shelf") t →
      t = .named "Shelf" [] ∨ t = .integer ∨ t = .list (some (.named "Shelf" [])) := by
    intro t mentions
    induction mentions with
    | root => exact .inl rfl
    | part _ part ih =>
      rcases ih with rfl | rfl | rfl
      · cases part with
        | refl => exact .inl rfl
        | named mem _ => cases mem
      · cases part
        exact .inr (.inl rfl)
      · cases part with
        | refl => exact .inr (.inr rfl)
        | list part =>
          cases part with
          | refl => exact .inl rfl
          | named mem _ => cases mem
    | definition _ lookup mem ih =>
      rcases ih with same | same | same <;> cases same
      cases lookup
      rcases List.mem_cons.mp mem with rfl | mem
      · exact .inr (.inl rfl)
      · exact .inr (.inr (List.mem_singleton.mp mem))
  rcases among _ mentions with same | same | same <;> cases same

/-- The width of an inner shelf makes no difference to what is found about the shelf beside it. -/
theorem outside_findings_shelves :
    let source : Registry := ⟨[("Shelf", .record shelf)], []⟩
    let place := ["shelves", "0", "width"]
    let shelves := fun width : Json =>
      Json.object [("shelves", .array [.object [("width", width)], .object []])]
    outside place (source.findings (.reference "Shelf") (shelves .null)) =
      outside place (source.findings (.reference "Shelf") (shelves (.number .zero))) :=
  outside_findings _ _ unionFree_shelves _ _ _
    (.member [] "shelves" [] (.item [] [.object []] (.member [] "width" [] (.here _ _))))

end Registry

end SchemaDialogue
