import SchemaDialogue.Proofs.Arises
import SchemaDialogue.Proofs.Decimal
import SchemaDialogue.Proofs.Journal

/-!
# What a violation blames

The path of a violation leads through the document to what the violation is about:

* **paths**: `Json.Reaches` follows segments from a value, through members by name and through items
  by number;
* **blame**: `Blames` says what stands at the end of the way: the value itself, an object without
  the member, or a member whose name is to blame;
* **result**: `Registry.violations_blame`: each violation that a check leaves on its journal blames
  something in the document.
-/

namespace SchemaDialogue

namespace Json

/-- Following the segments from a value leads to another. -/
inductive Reaches : Json → List String → Json → Prop
  | here {v} : Reaches v [] v
  | member {members name item segments v} : (name, item) ∈ members → Reaches item segments v →
      Reaches (.object members) (name :: segments) v
  | item {items : List Json} {index : Nat} {item segments v} : items[index]? = some item →
      Reaches item segments v → Reaches (.array items) (toString index :: segments) v

/-- No object in a value has two members of one name. -/
def Distinct (v : Json) : Prop :=
  ∀ segments members, v.Reaches segments (.object members) → (Entries.keys members).Nodup

theorem Distinct.of_mem {members : List (String × Json)} {name : String} {item : Json}
    (distinct : Distinct (.object members)) (mem : (name, item) ∈ members) : item.Distinct :=
  fun segments inner reaches => distinct (name :: segments) inner (.member mem reaches)

theorem Distinct.of_getElem? {items : List Json} {index : Nat} {item : Json}
    (distinct : Distinct (.array items)) (at_index : items[index]? = some item) : item.Distinct :=
  fun segments inner reaches => distinct (toString index :: segments) inner (.item at_index reaches)

/-- A leaf has no members at all. -/
theorem distinct_leaf {v : Json} (array : ∀ items, v ≠ .array items)
    (object : ∀ members, v ≠ .object members) : v.Distinct := by
  intro segments members reaches
  cases reaches with
  | here => exact absurd rfl (object _)
  | member => exact absurd rfl (object _)
  | item => exact absurd rfl (array _)

theorem distinct_array {items : List Json} (each : ∀ item ∈ items, item.Distinct) :
    Distinct (.array items) := by
  intro segments members reaches
  cases reaches with
  | item at_index reaches => exact each _ (List.mem_of_getElem? at_index) _ _ reaches

theorem distinct_object {members : List (String × Json)} (names : (Entries.keys members).Nodup)
    (each : ∀ m ∈ members, m.2.Distinct) : Distinct (.object members) := by
  intro segments inner reaches
  cases reaches with
  | here => exact names
  | member mem reaches => exact each _ mem _ _ reaches

/-- In a document without repeated names, a way through it is what its segments select one after the
other. -/
theorem foldlM_select?_of_reaches {v w : Json} {segments : List String}
    (h : v.Reaches segments w) (distinct : v.Distinct) :
    segments.foldlM select? v = some w := by
  induction h with
  | here => rfl
  | member mem _ ih =>
    have found := Entries.find?_of_mem (distinct [] _ .here) mem
    rw [List.foldlM_cons, select?, found]
    exact ih (distinct.of_mem mem)
  | item at_index _ ih =>
    rw [List.foldlM_cons, select?, itemNumber?_toString]
    show (_ >>= _) = _
    rw [Option.bind_some, at_index]
    exact ih (distinct.of_getElem? at_index)

end Json

/-- What the segments lead to in a document is what a violation blames. -/
inductive Blames (document : Json) : List String → Violation → Prop
  /-- The value at the end is to blame. -/
  | value {segments v} : document.Reaches segments v.value → Blames document segments v
  /-- The object before the last segment is to blame for having no such member. -/
  | missing {segments members name v} : document.Reaches segments (.object members) →
      name ∉ Entries.keys members → v.message = "Field required" → v.value = .object members →
      Blames document (segments ++ [name]) v
  /-- The last segment is to blame, as the name of a member. -/
  | key {segments members name v} : document.Reaches segments (.object members) →
      name ∈ Entries.keys members → v.value = .string name →
      Blames document (segments ++ [name]) v

namespace Blames

variable {document item : Json} {segments : List String} {v w : Violation}

/-- The wording of the path does not matter. -/
theorem congr (h : Blames document segments v) (value : w.value = v.value)
    (message : w.message = v.message) : Blames document segments w := by
  cases h with
  | value reaches => exact .value (value ▸ reaches)
  | missing reaches absent required object =>
    exact .missing reaches absent (message.trans required) (value.trans object)
  | key reaches named name => exact .key reaches named (value.trans name)

theorem within_member {members : List (String × Json)} {name : String}
    (mem : (name, item) ∈ members) (h : Blames item segments v) :
    Blames (.object members) (name :: segments) v := by
  cases h with
  | value reaches => exact .value (.member mem reaches)
  | missing reaches absent required object =>
    exact .missing (.member mem reaches) absent required object
  | key reaches named value => exact .key (.member mem reaches) named value

theorem within_item {items : List Json} {index : Nat} (at_index : items[index]? = some item)
    (h : Blames item segments v) : Blames (.array items) (toString index :: segments) v := by
  cases h with
  | value reaches => exact .value (.item at_index reaches)
  | missing reaches absent required object =>
    exact .missing (.item at_index reaches) absent required object
  | key reaches named value => exact .key (.item at_index reaches) named value

/-- Of a member's name as a value, nothing but the whole can be to blame. -/
theorem within_key {members : List (String × Json)} {name : String}
    (named : name ∈ Entries.keys members) (h : Blames (.string name) segments v) :
    Blames (.object members) (name :: segments) v := by
  cases h with
  | value reaches =>
    generalize value : v.value = whole at reaches
    cases reaches
    show Blames _ ([] ++ [name]) _
    exact .key .here named value
  | missing reaches => cases reaches
  | key reaches => cases reaches

end Blames

/-- A finding that arises from a value blames what its path leads to. -/
theorem Finding.Arises.blames {value : Json} {f : Finding} (h : f.Arises value) :
    Blames value f.path f.violation := by
  induction h with
  | here _ => exact .value .here
  | missing absent =>
    show Blames _ ([] ++ [_]) _
    exact .missing .here absent (by rw [Finding.violation, Cause.message]) rfl
  | notPermitted mem => exact .value (.member mem .here)
  | member mem _ ih => exact (ih.within_member mem).congr rfl rfl
  | key named _ ih => exact (ih.within_key named).congr rfl rfl
  | item at_index _ ih => exact (ih.within_item at_index).congr rfl rfl

namespace Registry

/-- The violations are what the check leaves on a journal, at the root again. Each has a way through
the document, of which its path is the wording, to what it blames; and when no object has two
members of one name, the segments of any way select one after the other what the way leads to. -/
theorem violations_blame (source : Registry) (t : TypeExpr) (document : Json) :
    (source.journalize .empty expansionLimit t document).run {} =
        ((), ⟨[], (source.findings t document).map Finding.violation⟩) ∧
      (∀ v ∈ (source.findings t document).map Finding.violation,
        ∃ segments, v.path = String.intercalate "." segments ∧ Blames document segments v) ∧
      (document.Distinct → ∀ segments item, document.Reaches segments item →
        segments.foldlM Json.select? document = some item) := by
  refine ⟨?_, ?_, ?_⟩
  · rw [journalize_eq_add]
    rfl
  · intro v mem
    obtain ⟨f, found, rfl⟩ := List.mem_map.mp mem
    exact ⟨f.path, rfl, (arises_of_mem_check _ _ _ _ f found).blames⟩
  · intro distinct segments item reaches
    exact Json.foldlM_select?_of_reaches reaches distinct

/-- Ages by name, of which the only one is under a name that is a text. -/
def ages : Json := .object [("Ada", .number .zero)]

theorem distinct_ages : ages.Distinct :=
  Json.distinct_object (by simp [Entries.keys]) fun _ mem => by
    cases List.mem_singleton.mp mem
    rintro _ _ ⟨⟩

theorem findings_ages :
    (Registry.findings ⟨[], []⟩ (.map (some .integer) (some .string)) ages).map Finding.violation =
      [⟨"Ada", .string "Ada", "Key should be a valid integer"⟩,
        ⟨"Ada", .number .zero, "Input should be a valid string"⟩] := by
  have noInteger : isIntegerKey "Ada" = false := by decide
  have key : keyKindFindings (some .integer) "Ada" =
      [.here (.string "Ada") (.badKey .integer)] := by
    rw [keyKindFindings, Option.map_some]
    exact if_neg (by rw [noInteger]; exact Bool.false_ne_true)
  have item : Registry.check ⟨[], []⟩ .empty expansionLimit .string (.number .zero) =
      [.here (.number .zero) (.wrongKind .string)] := by
    rw [check]
    rfl
  rw [findings, ages, check_map_object, List.flatMap_singleton]
  show List.map _ (List.map _ (keyKindFindings (some .integer) "Ada" ++ [] ++
    Registry.check ⟨[], []⟩ .empty expansionLimit .string (.number .zero))) = _
  rw [key, item]
  simp [Finding.violation, Finding.within, Finding.here, Cause.message, Kind.name]

/-- The name is to blame for one violation, and the value under it for the other. -/
theorem violations_blame_ages :
    (∃ segments, "Ada" = String.intercalate "." segments ∧
      Blames ages segments ⟨"Ada", .string "Ada", "Key should be a valid integer"⟩) ∧
    (∃ segments, "Ada" = String.intercalate "." segments ∧
      Blames ages segments ⟨"Ada", .number .zero, "Input should be a valid string"⟩) ∧
    ["Ada"].foldlM Json.select? ages = some (.number .zero) := by
  obtain ⟨_, blamed, selects⟩ :=
    violations_blame ⟨[], []⟩ (.map (some .integer) (some .string)) ages
  rw [findings_ages] at blamed
  refine ⟨blamed _ (.head _), blamed _ (.tail _ (.head _)), ?_⟩
  exact selects distinct_ages _ _ (.member (.head _) .here)

end Registry

end SchemaDialogue
