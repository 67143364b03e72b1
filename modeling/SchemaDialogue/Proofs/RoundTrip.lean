import SchemaDialogue.Describe.Form
import SchemaDialogue.Proofs.IntegerLiterals
import SchemaDialogue.Proofs.ReadBack

/-!
# What is written of a description is read back

A description is written with its empty parts left out and is read by forms that fill them in again,
through readers that recover what is written (`Read.Recovers`): literals, type expressions by
recursion (`TypeExpr.recovers`), records, aliases and opaque types by their forms, definitions by
their tags (`TypeDef.recovers`), and the registry (`Registry.recovers`).

A text and a value that hold the same are read alike, so a registry is decoded from either of them
as it was encoded (`Registry.read_encoded`).
-/

namespace SchemaDialogue

open Read

/-- A literal is read back. -/
theorem Literal.recovers (l : Literal) : Recovers (Literal.read .buffered) l.toJson l := by
  intro d spells
  cases l with
  | null =>
    cases spells
    rfl
  | bool b => cases spells <;> rfl
  | number n =>
    cases spells
    rfl
  | string s =>
    cases spells
    rfl

namespace TypeExpr

/-- No type expression is written as `null`. -/
theorem toJson_ne_null (t : TypeExpr) : t.toJson ≠ .null := by
  cases t <;> simp [toJson, Json.single]

/-- A type expression that is written as a bare name is read back. -/
theorem recovers_bare {name : String} {t : TypeExpr} (form : (name, t) ∈ bareForms) :
    Recovers (read .buffered) (.string name) t := by
  intro d spells
  have known : name ∈ formNames := List.mem_append_left _ (List.mem_map_of_mem form)
  rw [read]
  refine choiceOf_of_name known spells fun after => ?_
  simp only [bareForms, List.mem_cons, Prod.mk.injEq, List.not_mem_nil, or_false] at form
  rcases form with ⟨rfl, rfl⟩ | ⟨rfl, rfl⟩ | ⟨rfl, rfl⟩ | ⟨rfl, rfl⟩ | ⟨rfl, rfl⟩ | ⟨rfl, rfl⟩ |
    ⟨rfl, rfl⟩ | ⟨rfl, rfl⟩ <;> rfl

/-- The form in which `read` reads a reference. -/
def namedForm {Part : Draft → Prop} : RecordForm (TypeKey × List TypeExpr) Part :=
  { expected := .variantRecord "Annotation::Named"
    fields := [
      field "key" .required Read.text fun v s => (v, s.2),
      field "args" .defaulted (sequence read) fun v s => (s.1, v)]
    blank := ("", []) }

/-- The form in which `read` reads a map type. -/
def mapForm {Part : Draft → Prop} : RecordForm (Option TypeExpr × Option TypeExpr) Part :=
  { expected := .variantRecord "Annotation::Map"
    fields := [
      field "key" .defaulted (fun r d => readOption d fun _ => read r d) fun v s => (v, s.2),
      field "value" .defaulted (fun r d => readOption d fun _ => read r d) fun v s => (s.1, v)]
    blank := (none, none) }

/-- The form in which `read` reads a documented type. -/
def documentedForm {Part : Draft → Prop} : RecordForm (String × TypeExpr) Part :=
  { expected := .variantRecord "Annotation::Documented"
    fields := [
      field "doc" .required Read.text fun v s => (v, s.2),
      field "inner" .required read fun v s => (s.1, v)]
    blank := ("", any) }

/-- What is not `null` is read as something. -/
theorem readOption_of_spells {α : Type} {d : Draft} {v : Json} (spells : d.Spells v)
    (given : v ≠ .null) (part : Unit → Outcome α) : readOption d part = (part ()).map some := by
  cases spells with
  | null => exact absurd rfl given
  | _ => rfl

/-- A part that may be missing is read back; where it is missing, `null` is written. -/
theorem recovers_option {o : Option TypeExpr}
    (each : ∀ t, o = some t → Recovers (read .buffered) t.toJson t) :
    Recovers (fun d => readOption d fun _ => read .buffered d) (toJsonOption o) o := by
  intro d spells
  cases o with
  | none =>
    cases spells
    rfl
  | some t =>
    show (readOption d fun _ => read .buffered d) = _
    rw [readOption_of_spells spells (toJson_ne_null t), each t rfl d spells]
    rfl

/-- A type expression is read back. -/
theorem recovers (t : TypeExpr) : Recovers (read .buffered) t.toJson t := by
  -- each form is chosen by its name, and its parts are read back by the induction
  induction t using TypeExpr.induction with
  | string => exact recovers_bare (by simp [bareForms])
  | number => exact recovers_bare (by simp [bareForms])
  | integer => exact recovers_bare (by simp [bareForms])
  | boolean => exact recovers_bare (by simp [bareForms])
  | any => exact recovers_bare (by simp [bareForms])
  | null => exact recovers_bare (by simp [bareForms])
  | never => exact recovers_bare (by simp [bareForms])
  | self => exact recovers_bare (by simp [bareForms])
  | var name =>
    intro d spells
    rw [read]
    exact choiceOf_of_single (show "var" ∈ formNames by decide) spells fun c _ inside =>
      (recovers_textAs .text name).map var c inside
  | named key args ih =>
    intro d spells
    rw [toJson, toJsonAll_eq_map, ← List.append_nil (Json.listMember _ _)] at spells
    rw [read]
    refine choiceOf_of_single (show "named" ∈ formNames by decide) spells fun c part inside => ?_
    have gives : (namedForm : RecordForm _ d.Below).Gives .buffered _ (key, args) :=
      .field (recovers_textAs .text key) (.list (recovers_sequence ih) rfl .nil)
    show (recordVariant .buffered (.content c part) namedForm >>= _) = _
    rw [recordVariant_of_spells gives (show ["key", "args"].Nodup by decide) inside part]
    rfl
  | list element ih =>
    intro d spells
    rw [read]
    exact choiceOf_of_single (show "list" ∈ formNames by decide) spells fun c _ inside =>
      (recovers_option ih).map list c inside
  | map key value ihk ihv =>
    intro d spells
    rw [read]
    refine choiceOf_of_single (show "map" ∈ formNames by decide) spells fun c part inside => ?_
    have gives : (mapForm : RecordForm _ d.Below).Gives .buffered _ (key, value) :=
      .field (recovers_option ihk) (.field (recovers_option ihv) .nil)
    show (recordVariant .buffered (.content c part) mapForm >>= _) = _
    rw [recordVariant_of_spells gives (show ["key", "value"].Nodup by decide) inside part]
    rfl
  | tuple elements ih =>
    intro d spells
    rw [toJson, toJsonAll_eq_map] at spells
    rw [read]
    exact choiceOf_of_single (show "tuple" ∈ formNames by decide) spells fun c _ inside =>
      (recovers_sequence ih).map tuple c inside
  | variadic element ih =>
    intro d spells
    rw [read]
    exact choiceOf_of_single (show "variadic_tuple" ∈ formNames by decide) spells fun c _ inside =>
      ih.map variadic c inside
  | union members ih =>
    intro d spells
    rw [toJson, toJsonAll_eq_map] at spells
    rw [read]
    exact choiceOf_of_single (show "union" ∈ formNames by decide) spells fun c _ inside =>
      (recovers_sequence ih).map union c inside
  | literal choices =>
    intro d spells
    rw [read]
    exact choiceOf_of_single (show "literal" ∈ formNames by decide) spells fun c _ inside =>
      (recovers_sequence fun l _ => l.recovers).map literal c inside
  | required inner ih =>
    intro d spells
    rw [read]
    exact choiceOf_of_single (show "required" ∈ formNames by decide) spells fun c _ inside =>
      ih.map required c inside
  | notRequired inner ih =>
    intro d spells
    rw [read]
    exact choiceOf_of_single (show "not_required" ∈ formNames by decide) spells fun c _ inside =>
      ih.map notRequired c inside
  | documented doc inner ih =>
    intro d spells
    rw [read]
    refine choiceOf_of_single (show "documented" ∈ formNames by decide) spells
      fun c part inside => ?_
    have gives : (documentedForm : RecordForm _ d.Below).Gives .buffered _ (doc, inner) :=
      .field (recovers_textAs .text doc) (.field ih .nil)
    show (recordVariant .buffered (.content c part) documentedForm >>= _) = _
    rw [recordVariant_of_spells gives (show ["doc", "inner"].Nodup by decide) inside part]
    rfl

end TypeExpr

/-! ## Definitions -/

/-- An optional text is read back. -/
theorem recovers_someText (s : String) :
    Recovers (Read.optional Read.text .buffered) (.string s) (some s) :=
  recovers_optional nofun (recovers_textAs .text s)

/-- A field is read back. -/
theorem FieldDef.recovers (f : FieldDef) : Recovers (FieldDef.read .buffered) f.toJson f := by
  have gives : FieldDef.form.Gives .buffered
      (("name", .string f.name) :: ("type", f.type.toJson) :: ("optional", .bool f.optional) ::
        (Json.optionalMember "doc" (f.doc.map .string) ++ [])) f :=
    .field (recovers_textAs .text f.name) <| .field f.type.recovers <|
      .field (recovers_boolean f.optional) <|
      .optional (fun s _ => recovers_someText s) rfl .nil
  rw [List.append_nil] at gives
  exact recovers_record (fun _ => rfl) gives
    (show ["name", "type", "optional", "doc"].Nodup by decide)

theorem RecordDef.gives (r : RecordDef) : RecordDef.form.Gives .buffered r.members r := by
  have members : r.members =
      ("name", .string r.name) :: (Json.optionalMember "doc" (r.doc.map .string) ++
        (Json.listMember "type_params" (r.typeParams.map .string) ++
          (Json.listMember "bases" (r.bases.map TypeExpr.toJson) ++
            ("fields", .array (r.fields.map FieldDef.toJson)) ::
              (Json.optionalMember "extra" (r.extra.map TypeExpr.toJson) ++ [])))) := by
    simp [RecordDef.members]
  rw [members]
  exact .field (recovers_textAs .text r.name) <|
    .optional (fun s _ => recovers_someText s) rfl <|
    .list (recovers_sequence fun s _ => recovers_textAs .text s) rfl <|
    .list (recovers_sequence fun t _ => t.recovers) rfl <|
    .field (recovers_sequence fun f _ => f.recovers) <|
    .optional (fun t _ => recovers_optional t.toJson_ne_null t.recovers) rfl .nil

theorem AliasDef.gives (a : AliasDef) : AliasDef.form.Gives .buffered a.members a := by
  have members : a.members =
      ("name", .string a.name) :: (Json.optionalMember "doc" (a.doc.map .string) ++
        (Json.listMember "type_params" (a.typeParams.map .string) ++
          [("target", a.target.toJson)])) := by
    simp [AliasDef.members]
  rw [members]
  exact .field (recovers_textAs .text a.name) <|
    .optional (fun s _ => recovers_someText s) rfl <|
    .list (recovers_sequence fun s _ => recovers_textAs .text s) rfl <|
    .field a.target.recovers .nil

theorem TypeDef.opaque_gives (name : String) :
    TypeDef.opaqueForm.Gives .buffered [("name", .string name)] name :=
  .field (recovers_textAs .text name) .nil

/-- A definition is read back by its tag. -/
theorem TypeDef.recovers {r : Reading} (definition : TypeDef)
    (allowed : r.nesting.Allows definition.toJson.depth) :
    Recovers (TypeDef.read r) definition.toJson definition := by
  cases definition with
  | record d =>
    have read : Recovers (RecordDef.read .buffered) (.object d.members) d :=
      recovers_record (fun _ => rfl) d.gives
        (show ["name", "doc", "type_params", "bases", "fields", "extra"].Nodup by decide)
    exact recovers_tagged (by decide)
      (fun m mem => ne_of_mem_of_not_mem (d.gives.mem_names m mem) (by decide)) allowed
      (read.map TypeDef.record)
  | aliased a =>
    have read : Recovers (AliasDef.read .buffered) (.object a.members) a :=
      recovers_record (fun _ => rfl) a.gives
        (show ["name", "doc", "type_params", "target"].Nodup by decide)
    exact recovers_tagged (by decide)
      (fun m mem => ne_of_mem_of_not_mem (a.gives.mem_names m mem) (by decide)) allowed
      (read.map TypeDef.aliased)
  | opaqueType name =>
    have read : Recovers (Read.record TypeDef.opaqueForm .buffered)
        (.object [("name", .string name)]) name :=
      recovers_record (fun _ => rfl) (opaque_gives name) (show ["name"].Nodup by decide)
    exact recovers_tagged (by decide)
      (fun m mem => ne_of_mem_of_not_mem ((opaque_gives name).mem_names m mem) (by decide)) allowed
      (read.map TypeDef.opaqueType)

/-- A registry is read back, except that nothing is reserved in what is read. -/
theorem Registry.recovers {r : Reading} (g : Registry) (distinct : g.types.keys.Nodup)
    (allowed : r.nesting.Allows g.toJson.depth) :
    Recovers (Registry.read r) g.toJson { types := g.types } := by
  -- the object of the registry and the object of its definitions are one level each
  obtain ⟨inner, enters, within⟩ := descend_of_allows allowed
  have definitions : inner.nesting.Allows
      (Json.object (g.types.map fun entry => (entry.1, entry.2.toJson))).depth :=
    within.mono (Nat.le_max_left _ 0)
  obtain ⟨innermost, enters', within'⟩ := descend_of_allows definitions
  have each : ∀ entry ∈ g.types,
      Recovers (TypeDef.read innermost) entry.2.toJson entry.2 := by
    intro entry mem
    have written := List.mem_map_of_mem (f := fun e : TypeKey × TypeDef => (e.1, e.2.toJson)) mem
    exact entry.2.recovers (within'.mono (Json.depth_le_depthOfMembers written))
  have gives : Registry.form.Gives inner
      [("types", .object (g.types.map fun entry => (entry.1, entry.2.toJson)))]
      { types := g.types } :=
    .field (recovers_mapping enters' each distinct) .nil
  exact recovers_record enters gives (show ["types"].Nodup by decide)

namespace Registry

/-- What is read of a registry from the value that is written of it, or from the bytes of its text,
has the same definitions under the same keys and is written the same. The numbers among its literals
are integers, and its text stays below the nesting that is allowed in a text. -/
theorem read_encoded (g : Registry) (distinct : g.types.keys.Nodup)
    (integral : g.isIntegral = true) :
    ∃ back : Registry, back.types = g.types ∧ back.toJson.compact = g.toJson.compact ∧
      read .ofValue (Draft.ofJson g.toJson) = .ok back ∧
      (g.toJson.depth < 128 →
        read .ofText (Draft.ofSymbols (Symbol.ofBytes g.toJson.compact.toUTF8.toList)) =
          .ok back) := by
  refine ⟨{ types := g.types }, rfl, rfl, ?_, fun shallow => ?_⟩
  · exact g.recovers distinct (Draft.Nesting.allows_none _) _ (Draft.spells_ofJson _)
  · have allowed : Reading.ofText.nesting.Allows g.toJson.depth := by
      rintro _ ⟨⟩
      exact shallow
    exact g.recovers distinct allowed _ (Draft.spells_compact (integral_toJson integral))

/-- A registry of a record, an alias and an opaque type. -/
def library : Registry :=
  { types := [
      ("Book", .record {
        name := "Book"
        doc := some "A \"book\"."
        typeParams := ["T"]
        bases := [.named "Item" [.var "T"]]
        fields := [
          { name := "year", type := .union [.list none, .literal [.null, .bool true,
              .string "naïve", .number (.integer ⟨-44, by decide, by decide⟩)]] },
          { name := "shelf", type := .notRequired (.map none (some (.documented "Where" .string))),
            optional := true, doc := some "" }]
        extra := some (.variadic .self) }),
      ("Item", .aliased { name := "Item", typeParams := ["T"], target := .tuple [.var "T"] }),
      ("Cover", .opaqueType "Cover")] }

theorem read_encoded_library :
    ∃ back : Registry, back.types = library.types ∧
      read .ofText (Draft.ofSymbols (Symbol.ofBytes library.toJson.compact.toUTF8.toList)) =
        .ok back := by
  obtain ⟨back, types, _, _, text⟩ := read_encoded library (by decide) (by decide)
  exact ⟨back, types, text (by decide)⟩

end Registry

end SchemaDialogue
