import SchemaDialogue.Describe.Encode
import SchemaDialogue.Proofs.Slots
import SchemaDialogue.Proofs.Spelling
import SchemaDialogue.Read.Choice

/-!
# Reading what a draft spells

What each kind of reader gives for every draft that spells a value (`Read.Recovers`). What holds of
the reader of an item is lifted to options, lists, mappings, records and choices of it. A record is
read field by field in the order of its form (`Read.Lines`): what a line does to the record is
said once for a field that is given, one that may be left out and one that is a list, and the record
is the run over its lines (`RecordForm.readObject_of_gives`).
-/

namespace SchemaDialogue

namespace Read

/-- From each draft that spells the value, this is read. -/
def Recovers {α : Type} (read : Draft → Outcome α) (v : Json) (a : α) : Prop :=
  ∀ d : Draft, d.Spells v → read d = .ok a

variable {α σ : Type} {r inner : Reading} {v : Json}

/-- Reading goes one level further in where something deeper may be read. -/
theorem descend_of_allows {depth : Nat} (allowed : r.nesting.Allows (depth + 1)) :
    ∃ inner : Reading,
      (∀ opening, r.descend opening = .ok inner) ∧ inner.nesting.Allows depth := by
  obtain ⟨deeper, descended, within⟩ := allowed.descend
  refine ⟨{ r with nesting := deeper }, fun opening => ?_, within⟩
  rw [Reading.descend, descended]
  rfl

theorem Recovers.map {β : Type} {read : Draft → Outcome α} {a : α} (h : Recovers read v a)
    (f : α → β) : Recovers (fun d => (read d).map f) v (f a) := by
  intro d spells
  show (read d).map f = _
  rw [h d spells]
  rfl

/-! ## Leaves and options -/

theorem recovers_textAs (expected : Expected) (s : String) :
    Recovers (textAs expected r) (.string s) s := by
  rintro d ⟨⟩
  rfl

theorem recovers_boolean (b : Bool) : Recovers (boolean r) (.bool b) b := by
  intro d spells
  cases spells <;> rfl

/-- What is not `null` is read as something. -/
theorem recovers_optional {item : Reader α} {a : α} (given : v ≠ .null)
    (h : Recovers (item r) v a) : Recovers (optional item r) v (some a) := by
  intro d spells
  have read : optional item r d = (item r d).map some := by
    cases spells with
    | null => exact absurd rfl given
    | _ => rfl
  rw [read, h d spells]
  rfl

/-! ## Lists and mappings -/

theorem itemsFrom_of_spells {encode : α → Json} {item : Draft → Outcome α} {values : List α}
    (each : ∀ a ∈ values, Recovers item (encode a) a) {drafts : List Draft}
    (spells : List.Forall₂ Draft.Spells drafts (values.map encode)) (n : Nat) :
    itemsFrom n drafts (fun d _ => item d) = .ok values := by
  induction values generalizing drafts n with
  | nil =>
    cases spells
    rfl
  | cons a rest ih =>
    cases spells with
    | @cons d v drafts others first spells =>
    have later := ih (fun b mem => each b (.tail _ mem)) spells (n + 1)
    rw [itemsFrom, each a (.head _) d first, later]
    rfl

/-- A list of what is read from its items. -/
theorem recovers_sequence {encode : α → Json} {item : Reader α} {values : List α}
    (each : ∀ a ∈ values, Recovers (item .buffered) (encode a) a) :
    Recovers (sequence item .buffered) (.array (values.map encode)) values := by
  rintro d ⟨⟩
  rename_i opening drafts closing after spells
  show Outcome.settle _ (itemsFrom 0 drafts (fun d _ => item .buffered d) >>= _) = _
  rw [itemsFrom_of_spells each spells]
  rfl

theorem entries_of_spells {encode : α → Json} {item : Reader α} {values known : Entries α}
    (each : ∀ e ∈ values, Recovers (item r) (encode e.2) e.2)
    (distinct : (known ++ values).keys.Nodup) {drafts : List (DraftKey × Draft)}
    (spells : List.Forall₂ Draft.SpellsMember drafts (values.map fun e => (e.1, encode e.2))) :
    entries item r known drafts = .ok (known ++ values) := by
  -- a new key goes to the end of what is known, so the order is kept
  induction values generalizing known drafts with
  | nil =>
    cases spells
    rw [List.append_nil]
    rfl
  | cons e rest ih =>
    obtain ⟨key, value⟩ := e
    cases spells with
    | @cons draft member drafts others first spells =>
    cases first with
    | mk first =>
    have new : key ∉ known.keys := by
      intro mem
      rw [Entries.keys, List.map_append, List.nodup_append] at distinct
      exact distinct.2.2 key mem key (.head _) rfl
    have later : entries item r (known ++ [(key, value)]) drafts =
        .ok (known ++ [(key, value)] ++ rest) :=
      ih (fun e mem => each e (.tail _ mem)) (by rwa [List.append_assoc]) spells
    rw [List.append_assoc] at later
    rw [entries, each (key, value) (.head _) _ first]
    show entries item r (known.insert key value) _ = _
    rw [Entries.insert_of_not_mem new, later]
    rfl

/-- A mapping with distinct keys. -/
theorem recovers_mapping {encode : α → Json} {item : Reader α} {values : Entries α}
    (enters : ∀ opening, r.descend opening = .ok inner)
    (each : ∀ e ∈ values, Recovers (item inner) (encode e.2) e.2) (distinct : values.keys.Nodup) :
    Recovers (mapping item r) (.object (values.map fun e => (e.1, encode e.2))) values := by
  rintro d ⟨⟩
  rename_i opening drafts closing after spells
  rw [mapping, enters]
  show Outcome.settle _ (entries item inner [] drafts >>= _) = _
  have all : ([] ++ values : Entries α).keys.Nodup := distinct
  rw [entries_of_spells each all spells]
  rfl

/-! ## Records -/

section

variable {Part : Draft → Prop} {form : RecordForm σ Part} {fields : List (Field σ Part)}
  {members : List (String × Json)} {before after : σ}

/-- The members are those of some of the fields in order, and reading them turns the record `before`
into the record `after`; no field that is required is left out. -/
inductive Lines (r : Reading) :
    List (Field σ Part) → List (String × Json) → σ → σ → Prop
  | nil {current : σ} : Lines r [] [] current current
  | given {f : Field σ Part} {fields members value set before after} :
    (∀ d part, d.Spells value → f.read r d part = .ok set) →
      Lines r fields members (set before) after →
      Lines r (f :: fields) ((f.name, value) :: members) before after
  | omitted {f : Field σ Part} {fields members before after} : f.presence ≠ .required →
      Lines r fields members before after → Lines r (f :: fields) members before after

/-- A member that is on a line is named for a field. -/
theorem Lines.mem_names (lines : Lines r fields members before after) :
    ∀ m ∈ members, m.1 ∈ fields.map (·.name) := by
  induction lines with
  | nil => exact fun m mem => by cases mem
  | given _ _ ih =>
    intro m mem
    rcases List.mem_cons.mp mem with rfl | mem
    · exact .head _
    · exact .tail _ (ih m mem)
  | omitted _ _ ih => exact fun m mem => .tail _ (ih m mem)

/-- A line for a field with a reader of its own. -/
theorem Lines.field {name : String} {presence : Presence} {item : Reader α} {value : Json} {a : α}
    {set : α → σ → σ} (recovers : Recovers (item r) value a)
    (rest : Lines r fields members (set a before) after) :
    Lines r (Read.field name presence item set :: fields) ((name, value) :: members) before
      after := by
  have given : ∀ d part, d.Spells value →
      (Read.field name presence item set : Field σ Part).read r d part = .ok (set a) :=
    fun d _ spells => recovers.map set d spells
  exact .given given rest

/-- A line for a field that is left out when there is nothing to give. -/
theorem Lines.optional {name : String} {item : Reader (Option α)} {encode : α → Json} {o : Option α}
    {set : Option α → σ → σ} (recovers : ∀ a, o = some a → Recovers (item r) (encode a) (some a))
    (blank : set none before = before)
    (rest : Lines r fields members (set o before) after) :
    Lines r (Read.field name .defaulted item set :: fields)
      (Json.optionalMember name (o.map encode) ++ members) before after := by
  cases o with
  | none =>
    rw [blank] at rest
    exact .omitted nofun rest
  | some a => exact .field (recovers a rfl) rest

/-- A line for a field that is left out when its list is empty. -/
theorem Lines.list {name : String} {item : Reader (List α)} {encode : α → Json} {values : List α}
    {set : List α → σ → σ} (recovers : Recovers (item r) (.array (values.map encode)) values)
    (blank : set [] before = before)
    (rest : Lines r fields members (set values before) after) :
    Lines r (Read.field name .defaulted item set :: fields)
      (Json.listMember name (values.map encode) ++ members) before after := by
  cases values with
  | nil =>
    rw [blank] at rest
    exact .omitted nofun rest
  | cons a values => exact .field recovers rest

namespace RecordForm

/-- The members of a record of this form, in the order of its fields, give the record `after`. -/
def Gives (form : RecordForm σ Part) (r : Reading) (members : List (String × Json)) (after : σ) :
    Prop :=
  Lines r form.fields members form.blank after

/-- A member that is named for a field sets it. -/
theorem readMembers_cons {f : Field σ Part} (mem : f ∈ form.fields) (distinct : form.names.Nodup)
    {met : List String} (new : f.name ∉ met) {set : σ → σ} {start peeked stop : Place}
    {stream : Stream} {d : Draft} {drafts : List (DraftKey × Draft)}
    (small : ∀ m ∈ (⟨⟨.text (.ok f.name), start, peeked, stop⟩, stream⟩, d) :: drafts, Part m.2)
    (read : f.read r d (small _ (.head _)) = .ok set) :
    form.readMembers r ⟨before, met⟩
        ((⟨⟨.text (.ok f.name), start, peeked, stop⟩, stream⟩, d) :: drafts) small =
      form.readMembers r ⟨set before, f.name :: met⟩ drafts fun m mem => small m (.tail _ mem) := by
  have found : form.fields.find? (·.name = f.name) = some f := find?_of_nodup mem distinct
  rw [readMembers]
  simp only [Draft.keyText, Outcome.ofFault, Except.mapError, bind, Except.bind]
  rw [found]
  dsimp only
  rw [if_neg new, read]
  rfl

/-- The members of a record are read line by line, and all that is required is met. -/
theorem readMembers_of_lines (lines : Lines r fields members before after)
    (known : ∀ f ∈ fields, f ∈ form.fields) (distinct : form.names.Nodup)
    (once : (fields.map (·.name)).Nodup) {met : List String} (new : ∀ f ∈ fields, f.name ∉ met)
    {drafts : List (DraftKey × Draft)} (spells : List.Forall₂ Draft.SpellsMember drafts members)
    (small : ∀ m ∈ drafts, Part m.2) :
    ∃ all, form.readMembers r ⟨before, met⟩ drafts small = .ok ⟨after, all⟩ ∧
      (∀ name ∈ met, name ∈ all) ∧ ∀ f ∈ fields, f.presence = .required → f.name ∈ all := by
  -- what is met grows line by line, and none of the fields to come is among it
  induction lines generalizing met drafts with
  | nil =>
    cases spells
    exact ⟨met, rfl, fun _ mem => mem, fun f mem => by cases mem⟩
  | @given f fields members value set before after read lines ih =>
    cases spells with
    | @cons draft member drafts others first spells =>
    cases first with
    | mk first =>
    obtain ⟨other, once⟩ := List.nodup_cons.mp once
    have new' : ∀ g ∈ fields, g.name ∉ f.name :: met := by
      intro g mem again
      rcases List.mem_cons.mp again with same | again
      · exact other (List.mem_map.mpr ⟨g, mem, same⟩)
      · exact new g (.tail _ mem) again
    obtain ⟨all, later, kept, required⟩ := ih (fun g mem => known g (.tail _ mem)) once new' spells
      fun m mem => small m (.tail _ mem)
    refine ⟨all, ?_, fun name mem => kept name (.tail _ mem), ?_⟩
    · rw [readMembers_cons (known f (.head _)) distinct (new f (.head _)) small (read _ _ first)]
      exact later
    · intro g mem presence
      rcases List.mem_cons.mp mem with rfl | mem
      · exact kept _ (.head _)
      · exact required g mem presence
  | @omitted f fields members before after free lines ih =>
    obtain ⟨all, read, kept, required⟩ := ih (fun g mem => known g (.tail _ mem))
      (List.nodup_cons.mp once).2 (fun g mem => new g (.tail _ mem)) spells small
    refine ⟨all, read, kept, ?_⟩
    intro g mem presence
    rcases List.mem_cons.mp mem with rfl | mem
    · exact absurd presence free
    · exact required g mem presence

/-- A record in which all that is required has been met is finished. -/
theorem finish_of_met {met : List String} {stop : Place}
    (required : ∀ f ∈ form.fields, f.presence = .required → f.name ∈ met) :
    form.finish r stop ⟨after, met⟩ = .ok after := by
  have none : (form.fields.find? fun f => f.presence = .required && !met.contains f.name) =
      none := by
    rw [List.find?_eq_none]
    intro f mem missing
    rw [Bool.and_eq_true, decide_eq_true_eq] at missing
    have met := List.contains_iff_mem.mpr (required f mem missing.1)
    rw [met] at missing
    exact absurd missing.2 (by decide)
  rw [finish, none]

/-- A record is read line by line. -/
theorem readObject_of_gives (gives : form.Gives r members after)
    (distinct : form.names.Nodup) {drafts : List (DraftKey × Draft)}
    (spells : List.Forall₂ Draft.SpellsMember drafts members) (closing : Token)
    (small : ∀ m ∈ drafts, Part m.2) :
    form.readObject r drafts (.closed closing) small = .ok after := by
  obtain ⟨met, read, _, required⟩ := readMembers_of_lines gives (fun _ mem => mem) distinct distinct
    (fun _ _ => List.not_mem_nil) spells small
  rw [readObject, read]
  show Outcome.settle _ (form.finish r closing.stop ⟨after, met⟩) = _
  rw [finish_of_met required]
  rfl

end RecordForm

end

theorem recovers_record {form : RecordForm σ fun _ => True} {members : List (String × Json)}
    {after : σ} (enters : ∀ opening, r.descend opening = .ok inner)
    (gives : form.Gives inner members after) (distinct : form.names.Nodup) :
    Recovers (record form r) (.object members) after := by
  rintro d ⟨⟩
  rename_i opening drafts closing stream spells
  rw [record, recordOf, enters]
  exact RecordForm.readObject_of_gives gives distinct spells closing _

/-! ## Choices -/

theorem recordVariant_of_spells {d c : Draft} {form : RecordForm σ d.Below}
    {members : List (String × Json)} {after : σ}
    (gives : form.Gives .buffered members after) (distinct : form.names.Nodup)
    (spells : c.Spells (.object members)) (part : d.Below c) :
    recordVariant .buffered (.content c part) form = .ok after := by
  cases spells with
  | object spells =>
  exact RecordForm.readObject_of_gives gives distinct spells _ _

/-- A bare name chooses its variant. -/
theorem choiceOf_of_name {names : List String} {name : String} (known : name ∈ names) {d : Draft}
    (spells : d.Spells (.string name)) {variant : Reading → String → Given d.Below → Outcome α}
    {a : α} (bare : ∀ after, variant .buffered name (.bare after) = .ok a) :
    choiceOf .buffered names d variant = .ok a := by
  cases spells
  rw [choiceOf, if_pos known, bare]
  rfl

/-- So does the only member of an object. -/
theorem choiceOf_of_single {names : List String} {name : String} (known : name ∈ names) {d : Draft}
    (spells : d.Spells (.single name v))
    {variant : Reading → String → Given d.Below → Outcome α} {a : α}
    (content : ∀ (c : Draft) (part : d.Below c), c.Spells v →
      variant .buffered name (.content c part) = .ok a) :
    choiceOf .buffered names d variant = .ok a := by
  cases spells with
  | object spells =>
  cases spells with
  | cons first others =>
  cases others
  cases first with
  | mk first =>
  show (if name ∈ names then
    Outcome.within (.key name) (variant .buffered name (.content _ _)) else _) = _
  rw [if_pos known, content _ _ first]
  rfl

/-- Members among which the tag is not are kept. -/
theorem taggedMembers_of_spells {tag : String} {names : List String} {found : Option String}
    {members : List (String × Json)} (others : ∀ m ∈ members, m.1 ≠ tag)
    (allowed : ∀ m ∈ members, r.nesting.Allows m.2.depth) {drafts : List (DraftKey × Draft)}
    (spells : List.Forall₂ Draft.SpellsMember drafts members) :
    taggedMembers tag names r found drafts = .ok (found, drafts) := by
  induction spells with
  | nil => rfl
  | @cons draft member drafts members first spells ih =>
    cases first with
    | @mk key value d _ _ _ _ first =>
    have other : key ≠ tag := others (key, value) (.head _)
    obtain ⟨w, read⟩ := Draft.value_of_spells first (allowed (key, value) (.head _))
    have later := ih (fun m mem => others m (.tail _ mem)) fun m mem => allowed m (.tail _ mem)
    simp only [taggedMembers, Draft.keyText, json, Outcome.ofFault, Except.mapError, bind,
      Except.bind]
    rw [if_neg other, read, later]
    rfl

/-- The tag is taken from the members after it. -/
theorem taggedMembers_of_tag {tag : String} {names : List String} {name : String} {d : Draft}
    {drafts : List (DraftKey × Draft)} (named : variantName names r d = .ok name)
    (kept : taggedMembers tag names r (some name) drafts = .ok (some name, drafts))
    {start peeked stop : Place} {after : Stream} :
    taggedMembers tag names r none
        ((⟨⟨.text (.ok tag), start, peeked, stop⟩, after⟩, d) :: drafts) =
      .ok (some name, drafts) := by
  simp only [taggedMembers, Draft.keyText, Outcome.ofFault, Except.mapError, bind, Except.bind,
    if_true, Option.isSome_none, Bool.false_eq_true, if_false, Outcome.within, named, kept]

/-- A tagged type is read by the variant that its tag names. -/
theorem recovers_tagged {type tag : String} {names : List String} {name : String}
    {variant : String → Reader α} {members : List (String × Json)} {a : α} (known : name ∈ names)
    (others : ∀ m ∈ members, m.1 ≠ tag)
    (allowed : r.nesting.Allows (Json.object ((tag, .string name) :: members)).depth)
    (h : Recovers (variant name .buffered) (.object members) a) :
    Recovers (tagged type tag names variant r) (.object ((tag, .string name) :: members)) a := by
  obtain ⟨inner, enters, within⟩ := descend_of_allows allowed
  have below : ∀ m ∈ members, inner.nesting.Allows m.2.depth := fun m mem =>
    within.mono (Json.depth_le_depthOfMembers (.tail _ mem))
  rintro d ⟨⟩
  rename_i opening drafts closing stream spells
  cases spells with
  | @cons draft member drafts others first spells =>
  cases first with
  | @mk key value d _ _ _ _ first =>
  have named : variantName names inner d = .ok name := by
    rw [variantName, recovers_textAs _ _ _ first]
    exact if_pos known
  have kept : taggedMembers tag names inner (some name) drafts = .ok (some name, drafts) :=
    taggedMembers_of_spells others below spells
  -- once the tag is known, the variant reads what is left of the object
  rw [tagged, enters]
  show Outcome.settle _ (taggedMembers tag names inner none (_ :: drafts) >>= _) >>= _ = _
  rw [taggedMembers_of_tag named kept]
  show (variant name .buffered (.object opening drafts (.closed closing) stream)).mapError _ = _
  rw [h _ (.object spells)]
  rfl

end Read

end SchemaDialogue
