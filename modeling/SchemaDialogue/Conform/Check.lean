import SchemaDialogue.Conform.Union
import SchemaDialogue.Json.Numeral
import SchemaDialogue.Json.Token
import SchemaDialogue.Text.Digits

/-!
# Checking values against types

The check is strict: kinds are never converted into each other, and a record without a type for
further members is closed. All findings are collected, in the order of the data.

The check ends for every registry. Each step takes a part of the value; or, on the same value, uses
up an expansion; or goes from a parameter or `self` to a closed type; or takes a part of the type.
-/

namespace SchemaDialogue

namespace Json

theorem size_lt_of_mem_array {item : Json} {items : List Json} (h : item ∈ items) :
    item.size < (array items).size := by
  have := size_le_sizeOfItems h
  simp only [size]
  omega

theorem size_lt_of_mem_object {key : String} {value : Json} {members : List (String × Json)}
    (h : (key, value) ∈ members) : value.size < (object members).size := by
  have := size_lt_sizeOfMembers h
  simp only [size]
  omega

theorem key_size_lt_of_mem_object {key : String} {value : Json} {members : List (String × Json)}
    (h : (key, value) ∈ members) : (string key).size < (object members).size := by
  have := size_lt_sizeOfMembers h
  have := size_pos value
  simp only [size]
  omega

theorem size_lt_of_find? {key : String} {value : Json} {members : Entries Json}
    (h : members.find? key = some value) : value.size < (object members).size :=
  size_lt_of_mem_object (Entries.mem_of_find? h)

end Json

/-- The findings of each alternative in order, unless some alternative finds nothing. Alternatives
after that one are not tried. -/
def attemptAll {α β : Type} : (alternatives : List α) → (∀ a ∈ alternatives, List β) →
    Option (List (α × List β))
  | [], _ => some []
  | a :: rest, find =>
    match find a (.head _) with
    | [] => none
    | found => (attemptAll rest fun b h => find b (.tail _ h)).map ((a, found) :: ·)

/-- Is a member name an integer as numbers have it, with or without a sign? -/
def isIntegerKey (name : String) : Bool :=
  match name.toList with
  | '-' :: rest =>
    -- Integers reach down to -2⁶³ and up to 2⁶⁴ - 1.
    match Text.decimal? rest with
    | some n => n ≤ 2 ^ 63
    | none => false
  | text => (Text.word64? text).isSome

/-- The findings about a member name as a key of a map whose keys are numbers. -/
def keyKindFindings (key : Option TypeExpr) (name : String) : List Finding :=
  match key.map TypeExpr.unwrapped with
  | some .number =>
    if (Number.ofText? name).isSome then [] else [.here (.string name) (.badKey .number)]
  | some .integer => if isIntegerKey name then [] else [.here (.string name) (.badKey .integer)]
  | _ => []

/-- The type that the keys of a map are checked against as texts, where it says more than that they
are texts. -/
def keyType? (key : Option TypeExpr) : Option TypeExpr :=
  match key.map TypeExpr.unwrapped with
  | some (.literal choices) => some (.literal choices)
  | some (.named k args) => some (.named k args)
  | some (.union members) => some (.union members)
  | _ => none

namespace Registry

/-- A type with parameters or `self` can still take a step to a closed type. -/
def openness (t : TypeExpr) : Nat := if t.isClosed then 0 else 1

theorem openness_le {t u : TypeExpr} (h : u.isClosed = true → t.isClosed = true) :
    openness t ≤ openness u := by
  unfold openness
  split <;> split <;> simp_all

theorem isClosed_of_mem {t : TypeExpr} {ts : List TypeExpr} (h : t ∈ ts)
    (all : TypeExpr.allClosed ts = true) : t.isClosed = true := by
  induction ts with
  | nil => cases h
  | cons u rest ih =>
    simp only [TypeExpr.allClosed, Bool.and_eq_true] at all
    rcases List.mem_cons.1 h with rfl | h
    · exact all.1
    · exact ih h all.2

/-- The types that the check of a type goes on to with the same value and scope. -/
inductive Component : TypeExpr → TypeExpr → Prop
  | required {inner} : Component inner (.required inner)
  | notRequired {inner} : Component inner (.notRequired inner)
  | documented {doc inner} : Component inner (.documented doc inner)
  | union {m members} : m ∈ members → Component m (.union members)

theorem Component.sizeOf_lt {t u : TypeExpr} (h : Component t u) : sizeOf t < sizeOf u := by
  cases h with
  | required => simp
  | notRequired => simp
  | documented =>
    rw [TypeExpr.documented.sizeOf_spec]
    omega
  | union mem =>
    have := List.sizeOf_lt_of_mem mem
    rw [TypeExpr.union.sizeOf_spec]
    omega

theorem Component.isClosed {t u : TypeExpr} (h : Component t u) (closed : u.isClosed = true) :
    t.isClosed = true := by
  cases h with
  | required => exact closed
  | notRequired => exact closed
  | documented => exact closed
  | union mem => exact isClosed_of_mem mem closed

/-- Less is left of one check than of another, given what each still has to do: the size of the
value, the expansions, whether the type is open, and the size of the type. -/
abbrev Lighter : Nat × Nat × Nat × Nat → Nat × Nat × Nat × Nat → Prop :=
  Prod.Lex (· < ·) (Prod.Lex (· < ·) (Prod.Lex (· < ·) (· < ·)))

section

variable {left left' : Nat} {t t' : TypeExpr} {value value' : Json}

/-- A part of the value. -/
theorem lighter_of_size (h : value'.size < value.size) :
    Lighter (value'.size, left', openness t', sizeOf t')
      (value.size, left, openness t, sizeOf t) :=
  .left _ _ h

/-- A definition that is expanded. -/
theorem lighter_of_expansion (h : left' < left) :
    Lighter (value.size, left', openness t', sizeOf t') (value.size, left, openness t, sizeOf t) :=
  .right _ (.left _ _ h)

/-- A closed type in the place of a parameter or `self`. -/
theorem lighter_of_closed (hle : left' ≤ left) (closed : t'.isClosed = true)
    (h : t.isClosed = false) :
    Lighter (value.size, left', openness t', sizeOf t') (value.size, left, openness t, sizeOf t) :=
  .right _ <| lex_of_le hle <| .left _ _ (by simp [openness, closed, h])

/-- A part of the type. -/
theorem lighter_of_component (hle : left' ≤ left) (h : Component t' t) :
    Lighter (value.size, left', openness t', sizeOf t') (value.size, left, openness t, sizeOf t) :=
  .right _ <| lex_of_le hle <| lex_of_le (openness_le h.isClosed) h.sizeOf_lt

end

/-- The findings about a value, `left` being the expansions that are left. -/
def check (source : Registry) (scope : Scope) (left : Nat) (t : TypeExpr) (value : Json) :
    List Finding :=
  match t with
  | .required inner => check source scope left inner value
  | .notRequired inner => check source scope left inner value
  | .documented _ inner => check source scope left inner value
  | .any => []
  | .string => Finding.unlessKind .string value
  | .number => Finding.unlessKind .number value
  | .integer => Finding.unlessKind .integer value
  | .boolean => Finding.unlessKind .boolean value
  | .null => if value.isNull then [] else [.here value .notNull]
  | .never => [.here value .nothingAllowed]
  | .self =>
    -- Without a meaning, `self` and type parameters accept any value.
    match scope.this with
    | some this => check source scope (left - 1) this.1 value
    | none => []
  | .var name =>
    match scope.bindings.find? name with
    | some bound => check source scope (left - 1) bound.1 value
    | none => []
  | .named key args =>
    match left with
    | 0 => [.here value (.unresolved key)]
    | left + 1 =>
      match source.lookup key with
      | none => []
      | some (.opaqueType _) => Finding.unlessKind .object value
      | some (.aliased a) => check source (scope.enter a.typeParams args) left a.target value
      | some (.record r) =>
        match value with
        | .object members =>
          let shape := source.shape (scope.enterRecord key r.typeParams args) r
          -- First the findings of fields, in the order of the shape; then those of further members.
          (shape.fields.flatMap fun f =>
            match _ : Entries.find? members f.name with
            | some item => (check source f.scope expansionLimit f.type item).map (·.within f.name)
            | none => if f.optional then [] else [⟨[f.name], .object members, .fieldMissing⟩]) ++
          members.attach.flatMap fun ⟨(name, item), _⟩ =>
            if shape.hasField name then []
            else
              match shape.extra with
              | some (extra, inner) =>
                (check source inner expansionLimit extra item).map (·.within name)
              | none => [⟨[name], item, .notPermitted⟩]
        | _ => [.here value (.wrongKind .object)]
  | .list none => Finding.unlessKind .array value
  | .list (some element) =>
    match value with
    | .array items =>
      items.zipIdx.attach.flatMap fun ⟨(item, index), _⟩ =>
        (check source scope expansionLimit element item).map (·.within (toString index))
    | _ => [.here value (.wrongKind .array)]
  | .variadic element =>
    match value with
    | .array items =>
      items.zipIdx.attach.flatMap fun ⟨(item, index), _⟩ =>
        (check source scope expansionLimit element item).map (·.within (toString index))
    | _ => [.here value (.wrongKind .array)]
  | .tuple elements =>
    match value with
    | .array items =>
      (if items.length = elements.length then []
        else [.here value (.tupleLength elements.length items.length)]) ++
      (elements.zip items).zipIdx.attach.flatMap fun ⟨((element, item), index), _⟩ =>
        (check source scope expansionLimit element item).map (·.within (toString index))
    | _ => [.here value (.wrongKind .array)]
  | .map key element =>
    match value with
    | .object members =>
      members.attach.flatMap fun ⟨(name, item), _⟩ =>
        let ofKey :=
          match keyType? key with
          | some narrow => check source scope expansionLimit narrow (.string name)
          | none => []
        let ofItem :=
          match element with
          | some element => check source scope expansionLimit element item
          | none => []
        (keyKindFindings key name ++ ofKey ++ ofItem).map (·.within name)
    | _ => [.here value (.wrongKind .object)]
  | .union members =>
    match attemptAll members fun m _ => check source scope (left - 1) m value with
    | some attempts => source.settleUnion left scope members attempts value
    | none => []
  | .literal choices =>
    if choices.any (·.admits value) then []
    else [.here value (.notAmong (choices.map Literal.toJson))]
-- A step goes into the value, spends an expansion, looks up a name or goes into the type.
termination_by (value.size, left, openness t, sizeOf t)
decreasing_by
  · -- wrappers
    exact lighter_of_component (Nat.le_refl _) .required
  · exact lighter_of_component (Nat.le_refl _) .notRequired
  · exact lighter_of_component (Nat.le_refl _) .documented
  · -- `self` and type parameters
    exact lighter_of_closed (Nat.sub_le _ _) this.2 rfl
  · exact lighter_of_closed (Nat.sub_le _ _) bound.2 rfl
  · -- an alias
    exact lighter_of_expansion (Nat.lt_succ_self _)
  · -- fields, items, members and their names
    exact lighter_of_size (Json.size_lt_of_find? ‹_›)
  · exact lighter_of_size (Json.size_lt_of_mem_object ‹_›)
  · exact lighter_of_size (Json.size_lt_of_mem_array (List.fst_mem_of_mem_zipIdx ‹_›))
  · exact lighter_of_size (Json.size_lt_of_mem_array (List.fst_mem_of_mem_zipIdx ‹_›))
  · exact lighter_of_size
      (Json.size_lt_of_mem_array (List.of_mem_zip (List.fst_mem_of_mem_zipIdx ‹_›)).2)
  · exact lighter_of_size (Json.key_size_lt_of_mem_object ‹_›)
  · exact lighter_of_size (Json.size_lt_of_mem_object ‹_›)
  · -- a member of a union
    exact lighter_of_component (Nat.sub_le _ _) (.union ‹_›)

section

variable {source : Registry} {scope : Scope} {left : Nat} {value : Json}

@[simp] theorem check_required (inner : TypeExpr) :
    source.check scope left (.required inner) value = source.check scope left inner value := by
  rw [check]

@[simp] theorem check_notRequired (inner : TypeExpr) :
    source.check scope left (.notRequired inner) value = source.check scope left inner value := by
  rw [check]

@[simp] theorem check_documented (doc : String) (inner : TypeExpr) :
    source.check scope left (.documented doc inner) value =
      source.check scope left inner value := by
  rw [check]

@[simp] theorem check_any : source.check scope left .any value = [] := by
  rw [check]

end

end Registry

end SchemaDialogue
