import SchemaDialogue.Proofs.Verdict

/-!
# The check with one journal

The check as it goes about with one journal: the way to the value at hand, of which a segment is
pushed before each part and popped after it, and the violations written down so far. A member of a
union is attempted on the same journal; what the attempt has written is torn out again, and what one
attempt has found may be written down in the end.

* **operations**: `Journal.fail`, `Journal.inside` and `Journal.attempt`, each with a law that says
  what becomes of entries (`Journal.add`);
* **result**: the check adds the findings of `Registry.check` to the journal, in words and with
  their paths, and nothing else (`Registry.journalize_eq_add`).
-/

namespace SchemaDialogue

/-- What a check writes in: the way to the value at hand, and the violations so far. -/
structure Journal where
  path : List String := []
  violations : List Violation := []

/-- A finding of the value that a path leads to, in words. -/
def Finding.violationAt (path : List String) (f : Finding) : Violation :=
  ({ f with path := path ++ f.path } : Finding).violation

namespace Journal

/-- Write down what is wrong with the value at hand. -/
def fail (value : Json) (cause : Cause) : StateM Journal Unit :=
  modify fun j =>
    { j with violations := j.violations ++ [⟨String.intercalate "." j.path, value, cause.message⟩] }

/-- Go to a part of the value at hand, and come back. -/
def inside (segment : String) (act : StateM Journal Unit) : StateM Journal Unit := do
  modify fun j => { j with path := j.path ++ [segment] }
  act
  modify fun j => { j with path := j.path.dropLast }

/-- Tear out what has been written, and hand it over. -/
def attempt (act : StateM Journal Unit) : StateM Journal (List Violation) := do
  let mark := (← get).violations.length
  act
  let j ← get
  set { j with violations := j.violations.take mark }
  pure (j.violations.drop mark)

/-- Write down what has been found. -/
def replay (found : List Violation) : StateM Journal Unit :=
  modify fun j => { j with violations := j.violations ++ found }

/-- Attempt the alternatives in order; none of those after one that finds nothing. -/
def attemptEach {α : Type} : (alternatives : List α) →
    (∀ a ∈ alternatives, StateM Journal Unit) →
    StateM Journal (Option (List (α × List Violation)))
  | [], _ => pure (some [])
  | a :: rest, find => do
    match ← attempt (find a (.head _)) with
    | [] => pure none
    | found =>
      let others ← attemptEach rest fun b h => find b (.tail _ h)
      pure (others.map ((a, found) :: ·))

/-- Write down what is said about a union whose members have all found something. -/
def settle (source : Registry) (left : Nat) (scope : Scope) (members : List TypeExpr)
    (attempts : List (TypeExpr × List Violation)) (value : Json) : StateM Journal Unit :=
  match source.literalChoices left scope members with
  | some choices => fail value (.notAmong choices)
  | none =>
    let ofKind := attempts.filter fun p => source.kindMatches left scope p.1 value
    let meant :=
      if ofKind.length = 1 then ofKind
      else ofKind.filter fun p => source.discriminates left scope p.1 value
    match meant with
    | [(_, found)] => replay found
    | _ => fail value .noMember

/-- Add findings about the value at hand and its parts. -/
def add (findings : List Finding) : StateM Journal Unit :=
  modify fun j =>
    { j with violations := j.violations ++ findings.map (Finding.violationAt j.path) }

/-- Write down that a value is not of a kind, if it is not. -/
def unlessKind (kind : Kind) (value : Json) : StateM Journal Unit :=
  if kind.admits value then pure () else fail value (.wrongKind kind)

/-- Write down that an array has not as many items as it should, if it has not. -/
def checkLength (expected : Nat) (items : List Json) : StateM Journal Unit :=
  if items.length = expected then pure ()
  else fail (.array items) (.tupleLength expected items.length)

/-- Write down what is wrong with a member name as a key of a map whose keys are numbers. -/
def checkKeyKind (key : Option TypeExpr) (name : String) : StateM Journal Unit :=
  match key.map TypeExpr.unwrapped with
  | some .number =>
    if (Number.ofText? name).isSome then pure () else fail (.string name) (.badKey .number)
  | some .integer =>
    if isIntegerKey name then pure () else fail (.string name) (.badKey .integer)
  | _ => pure ()

/-! ## What becomes of entries -/

theorem violationAt_within (path : List String) (segment : String) (f : Finding) :
    (f.within segment).violationAt path = f.violationAt (path ++ [segment]) := by
  simp [Finding.violationAt, Finding.within]

theorem add_nil : add [] = pure () := by
  funext j
  show ((), { j with violations := j.violations ++ [] }) = ((), j)
  rw [List.append_nil]

theorem add_append (fs gs : List Finding) : (do add fs; add gs) = add (fs ++ gs) := by
  funext j
  show ((), { j with violations := j.violations ++ fs.map _ ++ gs.map _ }) =
    ((), { j with violations := j.violations ++ (fs ++ gs).map _ })
  rw [List.map_append, List.append_assoc]

theorem fail_eq_add (value : Json) (cause : Cause) :
    fail value cause = add [.here value cause] := by
  funext j
  simp [fail, add, Finding.violationAt, Finding.violation, Finding.here]

/-- Entries of a part become entries under the segment of that part, and the way is as before. -/
theorem inside_add (segment : String) (fs : List Finding) :
    inside segment (add fs) = add (fs.map (Finding.within segment)) := by
  funext j
  show ((), (⟨(j.path ++ [segment]).dropLast,
      j.violations ++ fs.map (Finding.violationAt (j.path ++ [segment]))⟩ : Journal)) =
    ((), { j with violations := j.violations ++ (fs.map (Finding.within segment)).map _ })
  rw [List.dropLast_concat, List.map_map]
  simp only [Function.comp_def, violationAt_within]

/-- The same of a part that adds findings, and of two checks one after the other. -/
theorem inside_eq_add {segment : String} {act : StateM Journal Unit} {fs : List Finding}
    (h : act = add fs) : inside segment act = add (fs.map (Finding.within segment)) := by
  rw [h, inside_add]

theorem seq_eq_add {act act' : StateM Journal Unit} {fs gs : List Finding} (h : act = add fs)
    (h' : act' = add gs) : (do act; act') = add (fs ++ gs) := by
  rw [h, h', add_append]

theorem forM_eq_add {α : Type} {l : List α} {act : α → StateM Journal Unit}
    {find : α → List Finding} (h : ∀ a ∈ l, act a = add (find a)) :
    l.forM act = add (l.flatMap find) := by
  induction l with
  | nil => exact add_nil.symm
  | cons a rest ih =>
    show (do act a; rest.forM act) = _
    rw [h a (.head _), ih fun b hb => h b (.tail _ hb), List.flatMap_cons]
    exact add_append _ _

/-- An attempt hands over what has been found and leaves the journal as it was. -/
theorem attempt_add (fs : List Finding) (j : Journal) :
    (attempt (add fs)).run j = (fs.map (Finding.violationAt j.path), j) := by
  show (List.drop j.violations.length (j.violations ++ fs.map (Finding.violationAt j.path)),
    { j with violations := (j.violations ++ fs.map _).take j.violations.length }) = _
  rw [List.drop_left, List.take_left]

/-- What attempts have found, in words. -/
def inWords {α : Type} (path : List String) (attempts : List (α × List Finding)) :
    List (α × List Violation) :=
  attempts.map fun p => (p.1, p.2.map (Finding.violationAt path))

theorem attemptEach_add {α : Type} {alternatives : List α}
    {act : (a : α) → a ∈ alternatives → StateM Journal Unit} {find : α → List Finding}
    (h : ∀ a mem, act a mem = add (find a)) (j : Journal) :
    (attemptEach alternatives act).run j =
      ((attemptAll alternatives fun a _ => find a).map (inWords j.path), j) := by
  induction alternatives with
  | nil => rfl
  | cons a rest ih =>
    rw [attemptEach, attemptAll]
    simp only [h]
    cases found : find a with
    | nil =>
      simp only [StateT.run_bind, attempt_add]
      rfl
    | cons f fs =>
      have others : (attemptEach rest fun b _ => add (find b)).run j =
          ((attemptAll rest fun b _ => find b).map (inWords j.path), j) := ih fun _ _ => rfl
      simp only [StateT.run_bind, attempt_add]
      show (((attemptEach rest fun b _ => add (find b)).run j).1.map _,
        ((attemptEach rest fun b _ => add (find b)).run j).2) = _
      rw [others, Option.map_map, Option.map_map]
      rfl

/-- What is settled from findings in words is settled from the findings. -/
theorem settle_add (source : Registry) (left : Nat) (scope : Scope) (members : List TypeExpr)
    (attempts : List (TypeExpr × List Finding)) (value : Json) (j : Journal) :
    (settle source left scope members (inWords j.path attempts) value).run j =
      (add (source.settleUnion left scope members attempts value)).run j := by
  have filter_inWords : ∀ (keep : TypeExpr → Bool) (l : List (TypeExpr × List Finding)),
      (inWords j.path l).filter (fun p => keep p.1) = inWords j.path (l.filter fun p => keep p.1) :=
    fun keep l => List.filter_map
  unfold settle Registry.settleUnion
  cases source.literalChoices left scope members with
  | some choices =>
    dsimp only
    rw [fail_eq_add]
  | none =>
    dsimp only
    rw [filter_inWords (source.kindMatches left scope · value),
      filter_inWords (source.discriminates left scope · value)]
    generalize attempts.filter _ = ofKind
    have length : (inWords j.path ofKind).length = ofKind.length := List.length_map _
    rw [length, ← apply_ite (inWords j.path)]
    generalize (if ofKind.length = 1 then ofKind else _) = meant
    match meant with
    | [] => exact congrArg (StateT.run · j) (fail_eq_add value .noMember)
    | [p] => rfl
    | _ :: _ :: _ => exact congrArg (StateT.run · j) (fail_eq_add value .noMember)

end Journal

namespace Registry

open Journal

/-- Check a value, writing to the journal; `left` are the expansions that are left. -/
def journalize (source : Registry) (scope : Scope) (left : Nat) (t : TypeExpr) (value : Json) :
    StateM Journal Unit :=
  match t with
  | .required inner => journalize source scope left inner value
  | .notRequired inner => journalize source scope left inner value
  | .documented _ inner => journalize source scope left inner value
  | .any => pure ()
  | .string => unlessKind .string value
  | .number => unlessKind .number value
  | .integer => unlessKind .integer value
  | .boolean => unlessKind .boolean value
  | .null => if value.isNull then pure () else fail value .notNull
  | .never => fail value .nothingAllowed
  | .self =>
    match scope.this with
    | some this => journalize source scope (left - 1) this.1 value
    | none => pure ()
  | .var name =>
    match scope.bindings.find? name with
    | some bound => journalize source scope (left - 1) bound.1 value
    | none => pure ()
  | .named key args =>
    match left with
    | 0 => fail value (.unresolved key)
    | left + 1 =>
      match source.lookup key with
      | none => pure ()
      | some (.opaqueType _) => unlessKind .object value
      | some (.aliased a) => journalize source (scope.enter a.typeParams args) left a.target value
      | some (.record r) =>
        match value with
        | .object members => do
          let shape := source.shape (scope.enterRecord key r.typeParams args) r
          shape.fields.forM fun f => inside f.name <|
            match _ : Entries.find? members f.name with
            | some item => journalize source f.scope expansionLimit f.type item
            | none => if f.optional then pure () else fail (.object members) .fieldMissing
          members.attach.forM fun ⟨(name, item), _⟩ =>
            if shape.hasField name then pure ()
            else inside name <|
              match shape.extra with
              | some (extra, inner) => journalize source inner expansionLimit extra item
              | none => fail item .notPermitted
        | _ => fail value (.wrongKind .object)
  | .list none => unlessKind .array value
  | .list (some element) =>
    match value with
    | .array items =>
      items.zipIdx.attach.forM fun ⟨(item, index), _⟩ =>
        inside (toString index) (journalize source scope expansionLimit element item)
    | _ => fail value (.wrongKind .array)
  | .variadic element =>
    match value with
    | .array items =>
      items.zipIdx.attach.forM fun ⟨(item, index), _⟩ =>
        inside (toString index) (journalize source scope expansionLimit element item)
    | _ => fail value (.wrongKind .array)
  | .tuple elements =>
    match value with
    | .array items => do
      checkLength elements.length items
      (elements.zip items).zipIdx.attach.forM fun ⟨((element, item), index), _⟩ =>
        inside (toString index) (journalize source scope expansionLimit element item)
    | _ => fail value (.wrongKind .array)
  | .map key element =>
    match value with
    | .object members =>
      members.attach.forM fun ⟨(name, item), _⟩ =>
        let checkKey :=
          match keyType? key with
          | some narrow => journalize source scope expansionLimit narrow (.string name)
          | none => pure ()
        let checkItem :=
          match element with
          | some element => journalize source scope expansionLimit element item
          | none => pure ()
        inside name do
          checkKeyKind key name
          checkKey
          checkItem
    | _ => fail value (.wrongKind .object)
  | .union members => do
    match ← attemptEach members fun m _ => journalize source scope (left - 1) m value with
    | some attempts => settle source left scope members attempts value
    | none => pure ()
  | .literal choices =>
    if choices.any (·.admits value) then pure ()
    else fail value (.notAmong (choices.map Literal.toJson))
termination_by (value.size, left, openness t, sizeOf t)
decreasing_by
  · exact lighter_of_component (Nat.le_refl _) .required
  · exact lighter_of_component (Nat.le_refl _) .notRequired
  · exact lighter_of_component (Nat.le_refl _) .documented
  · exact lighter_of_closed (Nat.sub_le _ _) this.2 rfl
  · exact lighter_of_closed (Nat.sub_le _ _) bound.2 rfl
  · exact lighter_of_expansion (Nat.lt_succ_self _)
  · exact lighter_of_size (Json.size_lt_of_find? ‹_›)
  · exact lighter_of_size (Json.size_lt_of_mem_object ‹_›)
  · exact lighter_of_size (Json.size_lt_of_mem_array (List.fst_mem_of_mem_zipIdx ‹_›))
  · exact lighter_of_size (Json.size_lt_of_mem_array (List.fst_mem_of_mem_zipIdx ‹_›))
  · exact lighter_of_size
      (Json.size_lt_of_mem_array (List.of_mem_zip (List.fst_mem_of_mem_zipIdx ‹_›)).2)
  · exact lighter_of_size (Json.key_size_lt_of_mem_object ‹_›)
  · exact lighter_of_size (Json.size_lt_of_mem_object ‹_›)
  · exact lighter_of_component (Nat.sub_le _ _) (.union ‹_›)

variable {source : Registry}

theorem unlessKind_eq_add (kind : Kind) (value : Json) :
    unlessKind kind value = add (Finding.unlessKind kind value) := by
  unfold unlessKind Finding.unlessKind
  split
  · exact add_nil.symm
  · exact fail_eq_add _ _

theorem checkKeyKind_eq_add (key : Option TypeExpr) (name : String) :
    checkKeyKind key name = add (keyKindFindings key name) := by
  unfold checkKeyKind keyKindFindings
  cases key.map TypeExpr.unwrapped with
  | none => exact add_nil.symm
  | some t =>
    cases t with
    | number =>
      dsimp only
      split
      · exact add_nil.symm
      · exact fail_eq_add _ _
    | integer =>
      dsimp only
      split
      · exact add_nil.symm
      · exact fail_eq_add _ _
    | _ => exact add_nil.symm

/-- The attempts at the members of a union leave nothing behind but what is settled from them. -/
theorem union_eq_add {left : Nat} {scope : Scope} {members : List TypeExpr} {value : Json}
    {act : (m : TypeExpr) → m ∈ members → StateM Journal Unit} {find : TypeExpr → List Finding}
    (each : ∀ m mem, act m mem = add (find m)) :
    (do
      match ← attemptEach members act with
      | some attempts => settle source left scope members attempts value
      | none => pure ()) =
    add (match attemptAll members fun m _ => find m with
      | some attempts => source.settleUnion left scope members attempts value
      | none => []) := by
  refine StateT.ext fun j => ?_
  rw [StateT.run_bind, attemptEach_add each j]
  cases attemptAll members fun m _ => find m with
  | none => exact congrArg (StateT.run · j) add_nil.symm
  | some attempts => exact settle_add source left scope members attempts value j

section

variable {scope : Scope} {left : Nat} {value : Json}

-- what the check follows: checks of smaller values add what is found about these
variable (smaller : ∀ (scope : Scope) (left : Nat) (t : TypeExpr) (part : Json),
  part.size < value.size →
    source.journalize scope left t part = add (source.check scope left t part))

include smaller

theorem record_eq_add {key : TypeKey} {args : List TypeExpr} {r : RecordDef}
    (lookup : source.lookup key = some (.record r)) :
    source.journalize scope (left + 1) (.named key args) value =
      add (source.check scope (left + 1) (.named key args) value) := by
  cases value with
  | object members =>
    rw [journalize, check, lookup]
    dsimp only
    refine seq_eq_add (forM_eq_add ?fields) (forM_eq_add ?further)
    case fields =>
      intro f _
      -- both sides look the member up; in between, what it comes to without the proof
      refine Eq.trans (?_ : _ = add ((Entries.find? members f.name).elim
        (if f.optional then [] else [⟨[f.name], .object members, .fieldMissing⟩])
        fun item => (source.check f.scope expansionLimit f.type item).map
          (Finding.within f.name))) (congrArg add ?_)
      · split
        · rename_i item found
          rw [found]
          exact inside_eq_add (smaller _ _ _ item (Json.size_lt_of_find? found))
        · rename_i absent
          rw [absent]
          show inside f.name _ = add (if f.optional then _ else _)
          split
          · exact inside_eq_add add_nil.symm
          · exact inside_eq_add (fail_eq_add _ _)
      · generalize (if f.optional then ([] : List Finding) else _) = missing
        split
        · rename_i item found
          rw [found]
          rfl
        · rename_i absent
          rw [absent]
          rfl
    case further =>
      rintro ⟨⟨name, item⟩, mem⟩ _
      dsimp only
      split
      · exact add_nil.symm
      · cases (source.shape (scope.enterRecord key r.typeParams args) r).extra with
        | none => exact inside_eq_add (fail_eq_add _ _)
        | some p => exact inside_eq_add (smaller _ _ _ item (Json.size_lt_of_mem_object mem))
  | _ =>
    rw [journalize, check, lookup]
    exact fail_eq_add _ _

theorem list_eq_add {element : TypeExpr} :
    source.journalize scope left (.list (some element)) value =
      add (source.check scope left (.list (some element)) value) := by
  rw [journalize.eq_def, check.eq_def]
  cases value with
  | array items =>
    refine forM_eq_add ?_
    rintro ⟨⟨item, index⟩, mem⟩ _
    have small := Json.size_lt_of_mem_array (List.fst_mem_of_mem_zipIdx mem)
    exact inside_eq_add (smaller _ _ _ item small)
  | _ => exact fail_eq_add _ _

theorem tuple_eq_add {elements : List TypeExpr} :
    source.journalize scope left (.tuple elements) value =
      add (source.check scope left (.tuple elements) value) := by
  rw [journalize.eq_def, check.eq_def]
  cases value with
  | array items =>
    refine seq_eq_add ?length (forM_eq_add ?items)
    case length =>
      unfold checkLength
      split
      · exact add_nil.symm
      · exact fail_eq_add _ _
    case items =>
      rintro ⟨⟨⟨element, item⟩, index⟩, mem⟩ _
      have paired := List.of_mem_zip (List.fst_mem_of_mem_zipIdx mem)
      exact inside_eq_add (smaller _ _ _ item (Json.size_lt_of_mem_array paired.2))
  | _ => exact fail_eq_add _ _

theorem map_eq_add {key element : Option TypeExpr} :
    source.journalize scope left (.map key element) value =
      add (source.check scope left (.map key element) value) := by
  rw [journalize.eq_def, check.eq_def]
  cases value with
  | object members =>
    refine forM_eq_add ?_
    rintro ⟨⟨name, item⟩, mem⟩ _
    have smallKey := Json.key_size_lt_of_mem_object mem
    have smallItem := Json.size_lt_of_mem_object mem
    dsimp only
    -- the key as a number, the key as a value of its type, the item
    rw [List.append_assoc]
    refine inside_eq_add (seq_eq_add (checkKeyKind_eq_add key name) (seq_eq_add ?_ ?_))
    · cases keyType? key with
      | none => exact add_nil.symm
      | some narrow => exact smaller _ _ narrow _ smallKey
    · cases element with
      | none => exact add_nil.symm
      | some element => exact smaller _ _ element _ smallItem
  | _ => exact fail_eq_add _ _

end

theorem journalize_variadic_eq_list {scope : Scope} {left : Nat} {value : Json}
    (element : TypeExpr) :
    source.journalize scope left (.variadic element) value =
      source.journalize scope left (.list (some element)) value := by
  cases value with
  | array items => rw [journalize, journalize]
  | _ => rw [journalize, journalize] <;> simp

/-- The check with a journal adds the findings to it, and nothing else. -/
theorem journalize_eq_add (scope : Scope) (left : Nat) (t : TypeExpr) (value : Json) :
    source.journalize scope left t value = add (source.check scope left t value) := by
  induction scope, left, t, value using check_induction with
  | step scope left t value smaller fewer closed component =>
  cases t with
  | required inner =>
    rw [journalize, check]
    exact component left inner (Nat.le_refl _) .required
  | notRequired inner =>
    rw [journalize, check]
    exact component left inner (Nat.le_refl _) .notRequired
  | documented doc inner =>
    rw [journalize, check]
    exact component left inner (Nat.le_refl _) .documented
  | any =>
    rw [journalize, check]
    exact add_nil.symm
  | null =>
    rw [journalize, check]
    split
    · exact add_nil.symm
    · exact fail_eq_add _ _
  | never =>
    rw [journalize, check]
    exact fail_eq_add _ _
  | self =>
    rw [journalize, check]
    cases this : scope.this with
    | none => exact add_nil.symm
    | some bound => exact closed _ bound (Nat.sub_le _ _) rfl
  | var name =>
    rw [journalize, check]
    cases found : scope.bindings.find? name with
    | none => exact add_nil.symm
    | some bound => exact closed _ bound (Nat.sub_le _ _) rfl
  | named key args =>
    cases left with
    | zero =>
      rw [journalize, check]
      exact fail_eq_add _ _
    | succ left =>
      cases lookup : source.lookup key with
      | none =>
        rw [journalize, check, lookup]
        exact add_nil.symm
      | some d =>
        cases d with
        | opaqueType name =>
          rw [journalize, check, lookup]
          exact unlessKind_eq_add _ _
        | aliased a =>
          rw [journalize, check, lookup]
          exact fewer _ left a.target (Nat.lt_succ_self left)
        | record r => exact record_eq_add smaller lookup
  | list element =>
    cases element with
    | none =>
      rw [journalize, check]
      exact unlessKind_eq_add _ _
    | some element => exact list_eq_add smaller
  | variadic element =>
    rw [journalize_variadic_eq_list, check_variadic_eq_list]
    exact list_eq_add smaller
  | tuple elements => exact tuple_eq_add smaller
  | map key element => exact map_eq_add smaller
  | union members =>
    rw [journalize, check]
    exact union_eq_add fun m mem => component _ m (Nat.sub_le _ _) (.union mem)
  | literal choices =>
    rw [journalize, check]
    split
    · exact add_nil.symm
    · exact fail_eq_add _ _
  | _ =>
    rw [journalize, check]
    exact unlessKind_eq_add _ _

end Registry

end SchemaDialogue
