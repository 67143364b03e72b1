import SchemaDialogue.Proofs.Journal
import Mathlib.Logic.ExistsUnique

/-!
# What is found about a union

A union finds nothing or one thing: when no member accepts a value, its findings are one finding
about the value itself or what one single member has found.

* **objects and records**: `Shape.Identifies` says that an object is meant for a shape, going by its
  literal fields, and `Shape.discriminates_iff` that the check decides this;
* **candidates**: `settleUnion_of_records`: of a union of references to records, the candidates are
  the members that an object is meant for;
* **result**: `Registry.check_union_all_or_one`, on the journal that all attempts share.
-/

namespace SchemaDialogue

/-- A filter leaves one item exactly when one position holds an item that passes. -/
theorem exists_filter_eq_singleton {α : Type} {keep : α → Bool} {l : List α} :
    (∃ a, l.filter keep = [a]) ↔ ∃! i : Nat, ∃ a, l[i]? = some a ∧ keep a = true := by
  induction l with
  | nil => simp [ExistsUnique]
  | cons b rest ih =>
    cases kept : keep b with
    | false =>
      rw [List.filter_cons_of_neg (by simp [kept]), ih]
      -- the positions in the rest are one further on
      constructor
      · rintro ⟨i, passes, only⟩
        refine ⟨i + 1, passes, ?_⟩
        rintro (_ | j) ⟨a, at_j, passes_j⟩
        · cases at_j
          cases kept.symm.trans passes_j
        · rw [only j ⟨a, at_j, passes_j⟩]
      · rintro ⟨_ | i, ⟨a, at_i, passes⟩, only⟩
        · cases at_i
          cases kept.symm.trans passes
        · refine ⟨i, ⟨a, at_i, passes⟩, fun j passes_j => ?_⟩
          exact Nat.succ.inj (only (j + 1) passes_j)
    | true =>
      rw [List.filter_cons_of_pos kept]
      constructor
      · rintro ⟨a, single⟩
        obtain ⟨_, none⟩ := List.cons.inj single
        refine ⟨0, ⟨b, rfl, kept⟩, ?_⟩
        rintro (_ | j) ⟨c, at_j, passes_j⟩
        · rfl
        · exact absurd passes_j (List.filter_eq_nil_iff.mp none c (List.mem_of_getElem? at_j))
      · rintro ⟨i, _, only⟩
        have first : 0 = i := only 0 ⟨b, rfl, kept⟩
        refine ⟨b, congrArg (b :: ·) (List.filter_eq_nil_iff.mpr fun c mem passes => ?_)⟩
        obtain ⟨j, at_j⟩ := List.getElem?_of_mem mem
        have later : j + 1 = i := only (j + 1) ⟨c, at_j, passes⟩
        omega

/-! ## Objects and the literal fields of records -/

/-- An object is meant for a shape: there are literal fields, and the object has each of them with
one of its values. -/
structure Shape.Identifies (s : Shape Scope) (members : Entries Json) : Prop where
  literal : ∃ f ∈ s.fields, ∃ choices, f.type.unwrapped = .literal choices
  agrees : ∀ f ∈ s.fields, ∀ choices, f.type.unwrapped = .literal choices →
    ∃ item, members.find? f.name = some item ∧ ∃ choice ∈ choices, choice.admits item = true

theorem ShapeField.choices?_eq_some {f : ShapeField Scope} {choices : List Literal} :
    f.choices? = some choices ↔ f.type.unwrapped = .literal choices := by
  unfold ShapeField.choices?
  split <;> simp_all

theorem ShapeField.agrees_iff {f : ShapeField Scope} {members : Entries Json}
    {choices : List Literal} :
    f.agrees members choices = true ↔
      ∃ item, members.find? f.name = some item ∧ ∃ choice ∈ choices, choice.admits item = true := by
  unfold ShapeField.agrees
  cases members.find? f.name <;> simp

/-- The check by literal fields decides what an object is meant for. -/
theorem Shape.discriminates_iff {s : Shape Scope} {members : Entries Json} :
    s.discriminates members = true ↔ s.Identifies members := by
  have mem_literals : ∀ p, p ∈ (s.fields.filterMap fun f => f.choices?.map (f, ·)) ↔
      p.1 ∈ s.fields ∧ p.1.type.unwrapped = .literal p.2 := by
    rintro ⟨f, choices⟩
    simp only [List.mem_filterMap, Option.map_eq_some_iff, ShapeField.choices?_eq_some]
    constructor
    · rintro ⟨g, mem, other, literal, heq⟩
      cases heq
      exact ⟨mem, literal⟩
    · rintro ⟨mem, literal⟩
      exact ⟨f, mem, choices, literal, rfl⟩
  unfold Shape.discriminates
  generalize (s.fields.filterMap fun f => f.choices?.map (f, ·)) = literals at mem_literals ⊢
  simp only [Bool.and_eq_true, Bool.not_eq_true', List.isEmpty_eq_false_iff_exists_mem,
    List.all_eq_true, ShapeField.agrees_iff]
  constructor
  · rintro ⟨⟨p, mem⟩, agrees⟩
    obtain ⟨field, literal⟩ := (mem_literals p).mp mem
    exact ⟨⟨p.1, field, p.2, literal⟩, fun f field choices literal =>
      agrees (f, choices) ((mem_literals (f, choices)).mpr ⟨field, literal⟩)⟩
  · rintro ⟨⟨f, field, choices, literal⟩, agrees⟩
    refine ⟨⟨(f, choices), (mem_literals (f, choices)).mpr ⟨field, literal⟩⟩, fun p mem => ?_⟩
    obtain ⟨field, literal⟩ := (mem_literals p).mp mem
    exact agrees p.1 field p.2 literal

namespace Registry

/-- The type is a reference to a record that is described. -/
def RefersToRecord (source : Registry) (t : TypeExpr) : Prop :=
  ∃ key args r, t.unwrapped = .named key args ∧ source.lookup key = some (.record r)

/-- The type is a reference to a record whose literal fields an object has, each with one of its
values. -/
def Meant (source : Registry) (scope : Scope) (members : Entries Json) (t : TypeExpr) : Prop :=
  ∃ key args r, t.unwrapped = .named key args ∧ source.lookup key = some (.record r) ∧
    (source.shape (scope.enterRecord key r.typeParams args) r).Identifies members

variable {source : Registry} {scope : Scope} {left : Nat}

/-! ## The candidates among records -/

theorem kindMatches_of_refersToRecord {t : TypeExpr} {object : List (String × Json)}
    (h : source.RefersToRecord t) :
    source.kindMatches (left + 1) scope t (.object object) = true := by
  obtain ⟨key, args, r, named, lookup⟩ := h
  rw [kindMatches, named]
  dsimp only
  rw [lookup]
  rfl

theorem literalChoices_of_refersToRecord {m : TypeExpr} {members : List TypeExpr}
    (h : source.RefersToRecord m) :
    source.literalChoices (left + 1) scope (m :: members) = none := by
  obtain ⟨key, args, r, named, lookup⟩ := h
  rw [literalChoices, List.mapM_cons, named]
  dsimp only
  rw [lookup]
  rfl

theorem discriminates_iff_meant {t : TypeExpr} {object : List (String × Json)}
    (h : source.RefersToRecord t) :
    source.discriminates (left + 1) scope t (.object object) = true ↔
      source.Meant scope object t := by
  obtain ⟨key, args, r, named, lookup⟩ := h
  have resolved : source.resolveRecord (left + 1) scope t =
      some (r, scope.enterRecord key r.typeParams args) := by
    rw [resolveRecord, named]
    dsimp only
    rw [lookup]
  unfold discriminates
  rw [resolved]
  dsimp only
  rw [Shape.discriminates_iff]
  constructor
  · intro identifies
    exact ⟨key, args, r, named, lookup, identifies⟩
  · rintro ⟨key', args', r', named', lookup', identifies⟩
    cases named.symm.trans named'
    cases lookup.symm.trans lookup'
    exact identifies

/-- Of two or more references to records, the candidates are those that an object is meant for. -/
theorem settleUnion_of_records {members : List TypeExpr} {object : List (String × Json)}
    {find : TypeExpr → List Finding} (several : 2 ≤ members.length)
    (records : ∀ m ∈ members, source.RefersToRecord m) :
    let candidates := members.filter (source.discriminates (left + 1) scope · (.object object))
    let said := source.settleUnion (left + 1) scope members (members.map fun m => (m, find m))
      (.object object)
    (∀ m, candidates = [m] → said = find m) ∧
      ((¬∃ m, candidates = [m]) → said = [.here (.object object) .noMember]) := by
  intro candidates said
  have noChoices : source.literalChoices (left + 1) scope members = none := by
    cases members with
    | nil => cases several
    | cons m rest => exact literalChoices_of_refersToRecord (records m (.head _))
  -- an object is of the kind of every record, so that the kind does not narrow anything
  have allOfKind : (members.map fun m => (m, find m)).filter
      (fun p => source.kindMatches (left + 1) scope p.1 (.object object)) =
      members.map fun m => (m, find m) := by
    rw [List.filter_eq_self]
    intro p mem
    obtain ⟨m, hm, rfl⟩ := List.mem_map.mp mem
    exact kindMatches_of_refersToRecord (records m hm)
  have notOne : (members.map fun m => (m, find m)).length ≠ 1 := by
    rw [List.length_map]
    omega
  have narrowed : (members.map fun m => (m, find m)).filter
      (fun p => source.discriminates (left + 1) scope p.1 (.object object)) =
      candidates.map fun m => (m, find m) := List.filter_map
  unfold said settleUnion
  rw [noChoices]
  dsimp only
  rw [allOfKind, if_neg notOne, narrowed]
  constructor
  · intro m single
    rw [single]
    rfl
  · intro none
    split
    · rename_i single
      obtain ⟨m, rest, same, _, nil⟩ := List.map_eq_cons_iff.mp single
      exact absurd ⟨m, same.trans (congrArg _ (List.map_eq_nil_iff.mp nil))⟩ none
    · rfl

/-- What is found about a rejected value is settled from what all members have found. -/
theorem check_union_of_rejected {members : List TypeExpr} {value : Json}
    (rejected : source.check scope left (.union members) value ≠ []) :
    source.check scope left (.union members) value =
      source.settleUnion left scope members
        (members.map fun m => (m, source.check scope (left - 1) m value)) value := by
  rw [check] at rejected ⊢
  cases tried : attemptAll members fun m _ => source.check scope (left - 1) m value with
  | none =>
    rw [tried] at rejected
    exact absurd rfl rejected
  | some attempts =>
    obtain ⟨rfl, _⟩ := attemptAll_eq_some tried
    rfl

/-- A union finds nothing exactly when a member finds nothing. Otherwise one thing is found: what is
wrong with the value itself, or all that one member has found; nothing else is left on the journal
that the attempts have been written to. Of two or more references to records, it is what the one
record has found that an object is meant for, and if there is no such record, or more than one, that
no member matches. -/
theorem check_union_all_or_one (source : Registry) (scope : Scope) (left : Nat)
    (members : List TypeExpr) (value : Json) :
    source.journalize scope left (.union members) value =
        Journal.add (source.check scope left (.union members) value) ∧
      (source.check scope left (.union members) value = [] ↔
        ∃ m ∈ members, source.check scope (left - 1) m value = []) ∧
      (source.check scope left (.union members) value ≠ [] →
        (∃ cause, source.check scope left (.union members) value = [.here value cause]) ∨
        ∃ m ∈ members, source.check scope left (.union members) value =
          source.check scope (left - 1) m value) ∧
      ∀ object, value = .object object → 0 < left → 2 ≤ members.length →
        (∀ m ∈ members, source.RefersToRecord m) →
        source.check scope left (.union members) value ≠ [] →
        (∀ (i : Nat) m, members[i]? = some m → source.Meant scope object m →
          (∀ (j : Nat) n, members[j]? = some n → source.Meant scope object n → j = i) →
          source.check scope left (.union members) value =
            source.check scope (left - 1) m value) ∧
        ((¬ ∃! i : Nat, ∃ m, members[i]? = some m ∧ source.Meant scope object m) →
          ∀ path, (source.check scope left (.union members) value).map (Finding.violationAt path) =
            [⟨String.intercalate "." path, value,
              "Input does not match any member of the union"⟩]) := by
  refine ⟨journalize_eq_add _ _ _ _, check_union_eq_nil, ?_, ?_⟩
  · intro rejected
    rw [check_union_of_rejected rejected]
    rcases settleUnion_cases members _ with ⟨choices, said⟩ | said | ⟨p, mem, said⟩
    · exact .inl ⟨_, said⟩
    · exact .inl ⟨_, said⟩
    · obtain ⟨m, hm, rfl⟩ := List.mem_map.mp mem
      exact .inr ⟨m, hm, said⟩
  · rintro object rfl positive several records rejected
    obtain ⟨left, rfl⟩ := Nat.exists_eq_succ_of_ne_zero (Nat.ne_of_gt positive)
    obtain ⟨settled, unsettled⟩ := source.settleUnion_of_records several records
    rw [check_union_of_rejected rejected]
    have meant : ∀ i : Nat, (∃ m, members[i]? = some m ∧ source.Meant scope object m) ↔
        ∃ m, members[i]? = some m ∧
          source.discriminates (left + 1) scope m (.object object) = true := by
      intro i
      refine exists_congr fun m => and_congr_right fun at_i => ?_
      exact (discriminates_iff_meant (records m (List.mem_of_getElem? at_i))).symm
    constructor
    · intro i m at_i meant_i only
      obtain ⟨n, single⟩ := exists_filter_eq_singleton.mpr
        ⟨i, (meant i).mp ⟨m, at_i, meant_i⟩, fun j meant_j => by
          obtain ⟨n, at_j, meant_n⟩ := (meant j).mpr meant_j
          exact only j n at_j meant_n⟩
      have same : m ∈ [n] := by
        rw [← single, List.mem_filter, discriminates_iff_meant]
        · exact ⟨List.mem_of_getElem? at_i, meant_i⟩
        · exact records m (List.mem_of_getElem? at_i)
      rw [settled n single, List.mem_singleton.mp same]
    · intro none path
      simp only [meant, ← exists_filter_eq_singleton] at none
      rw [unsettled none]
      simp [Finding.violationAt, Finding.violation, Finding.here, Cause.message]

/-! ## Figures -/

/-- A kind of figure: its literal field holds its name. -/
def figureDef (name : String) : RecordDef :=
  { name, fields := [
      { name := "kind", type := .literal [.string name] },
      { name := "size", type := .number }] }

def figures : Registry :=
  ⟨[("Circle", .record (figureDef "circle")), ("Square", .record (figureDef "square"))], []⟩

theorem shape_figureDef (name : String) :
    figures.shape scope (figureDef name) =
      ⟨[⟨"kind", .literal [.string name], false, scope⟩, ⟨"size", .number, false, scope⟩],
        none⟩ := by
  rw [shape, lineage, ancestry, figureDef, List.map_nil, ancestryFrom]
  rfl

/-- An object with nothing but a kind lacks a size, and may be of another kind. -/
theorem check_figure {key : TypeKey} {name kind : String}
    (lookup : figures.lookup key = some (.record (figureDef name))) :
    figures.check scope (left + 1) (.named key []) (.object [("kind", .string kind)]) =
      (figures.check (scope.enterRecord key [] []) expansionLimit (.literal [.string name])
        (.string kind)).map (Finding.within "kind") ++
      [⟨["size"], .object [("kind", .string kind)], .fieldMissing⟩] := by
  rw [check_record_object lookup, shape_figureDef]
  simp only [List.flatMap_cons, List.flatMap_nil, List.append_nil, memberFindings, Shape.hasField,
    List.any_cons, List.any_nil, decide_eq_true_eq, Bool.or_false, Bool.or_eq_true,
    String.reduceEq, or_false, if_true]
  rfl

theorem meant_figure {key : TypeKey} {name kind : String}
    (lookup : figures.lookup key = some (.record (figureDef name))) :
    figures.Meant scope [("kind", .string kind)] (.named key []) ↔ kind = name := by
  constructor
  · rintro ⟨_, _, r, named, lookup', identifies⟩
    cases named
    cases lookup.symm.trans lookup'
    rw [shape_figureDef] at identifies
    obtain ⟨item, found, choice, mem, admits⟩ := identifies.agrees _ (.head _) _ rfl
    cases found
    cases List.mem_singleton.mp mem
    exact (beq_iff_eq.mp admits).symm
  · rintro rfl
    refine ⟨key, [], figureDef kind, rfl, lookup, ?_⟩
    rw [shape_figureDef]
    refine ⟨⟨_, .head _, _, rfl⟩, fun f mem choices literal => ?_⟩
    obtain rfl | mem := List.mem_cons.mp mem
    · cases literal
      exact ⟨.string kind, rfl, _, .head _, beq_self_eq_true kind⟩
    · cases List.mem_singleton.mp mem
      cases literal

/-- Of a square without a size among circles and squares, what is found is that the square has no
size. -/
theorem check_union_figures :
    figures.check .empty expansionLimit (.union [.named "Circle" [], .named "Square" []])
        (.object [("kind", .string "square")]) =
      [⟨["size"], .object [("kind", .string "square")], .fieldMissing⟩] := by
  have circle : figures.lookup "Circle" = some (.record (figureDef "circle")) := rfl
  have square : figures.lookup "Square" = some (.record (figureDef "square")) := rfl
  have records : ∀ m ∈ [TypeExpr.named "Circle" [], .named "Square" []],
      figures.RefersToRecord m := by
    simp only [List.forall_mem_cons]
    exact ⟨⟨_, _, _, rfl, circle⟩, ⟨_, _, _, rfl, square⟩, by simp⟩
  have rejected : figures.check .empty expansionLimit
      (.union [.named "Circle" [], .named "Square" []])
      (.object [("kind", .string "square")]) ≠ [] := by
    rw [Ne, check_union_eq_nil]
    rintro ⟨m, mem, none⟩
    obtain rfl | rfl : m = _ ∨ m = _ := by simpa using mem
    · rw [expansionLimit, check_figure circle] at none
      exact List.append_ne_nil_of_right_ne_nil _ (List.cons_ne_nil _ _) none
    · rw [expansionLimit, check_figure square] at none
      exact List.append_ne_nil_of_right_ne_nil _ (List.cons_ne_nil _ _) none
  obtain ⟨_, _, _, ofRecords⟩ := check_union_all_or_one figures .empty expansionLimit
    [.named "Circle" [], .named "Square" []] (.object [("kind", .string "square")])
  have meant := (ofRecords _ rfl (by decide) (by decide) records rejected).1 1 (.named "Square" [])
    rfl ((meant_figure square).mpr rfl) ?_
  · rw [meant, expansionLimit, check_figure square, check]
    rfl
  · rintro (_ | _ | j) n at_j meant
    · cases at_j
      exact absurd ((meant_figure circle).mp meant) (by decide)
    · rfl
    · cases at_j

end Registry

end SchemaDialogue
