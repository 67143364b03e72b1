import SchemaDialogue.Describe.Encode
import SchemaDialogue.Proofs.JsonText
import SchemaDialogue.Proofs.Parts

/-!
# Descriptions whose numbers are integers

The only numbers in a description are literals. Where these are integers (`Registry.isIntegral`),
all numbers that are written of a registry are (`Registry.integral_toJson`).
-/

namespace SchemaDialogue

/-! ## Members -/

namespace Json

variable {α : Type} {encode : α → Json}

theorem integral_array {values : List α} (each : ∀ a ∈ values, (encode a).Integral) :
    Integral (.array (values.map encode)) :=
  .array (List.forall_mem_map.mpr each)

theorem integral_single {key : String} {v : Json} (h : v.Integral) : (single key v).Integral :=
  .object (List.forall_mem_singleton.mpr h)

theorem integral_optionalMember {key : String} {o : Option α}
    (each : ∀ a, o = some a → (encode a).Integral) :
    ∀ m ∈ optionalMember key (o.map encode), m.2.Integral := by
  cases o with
  | none => exact fun m mem => by cases mem
  | some a => exact List.forall_mem_singleton.mpr (each a rfl)

theorem integral_listMember {key : String} {values : List α}
    (each : ∀ a ∈ values, (encode a).Integral) :
    ∀ m ∈ listMember key (values.map encode), m.2.Integral := by
  cases values with
  | nil => exact fun m mem => by cases mem
  | cons a rest => exact List.forall_mem_singleton.mpr (integral_array each)

end Json

/-! ## Type expressions -/

namespace Literal

/-- Is the literal an integer, if it is a number? -/
def isIntegral : Literal → Bool
  | number n => n.isInteger
  | _ => true

theorem integral_toJson {l : Literal} (integral : l.isIntegral = true) : l.toJson.Integral := by
  cases l with
  | null => exact .null
  | bool b => exact .bool b
  | number n =>
    cases n with
    | integer n => exact .integer n
    | real x => cases integral
  | string s => exact .string s

end Literal

namespace TypeExpr

mutual

/-- Are the numbers among the literals in a type expression integers? -/
def isIntegral : TypeExpr → Bool
  | literal choices => choices.all Literal.isIntegral
  | named _ args => allIntegral args
  | list element => optionIntegral element
  | map key value => optionIntegral key && optionIntegral value
  | tuple elements => allIntegral elements
  | variadic element => element.isIntegral
  | union members => allIntegral members
  | required inner => inner.isIntegral
  | notRequired inner => inner.isIntegral
  | documented _ inner => inner.isIntegral
  | _ => true

/-- Are they in all of these? -/
def allIntegral : List TypeExpr → Bool
  | [] => true
  | t :: rest => t.isIntegral && allIntegral rest

/-- Are they in the type, if there is one? -/
def optionIntegral : Option TypeExpr → Bool
  | none => true
  | some t => t.isIntegral

end

theorem allIntegral_iff {ts : List TypeExpr} :
    allIntegral ts = true ↔ ∀ t ∈ ts, t.isIntegral = true := by
  induction ts with
  | nil => simp [allIntegral]
  | cons t rest ih => simp [allIntegral, ih]

theorem toJsonAll_eq_map (ts : List TypeExpr) : toJsonAll ts = ts.map toJson := by
  induction ts with
  | nil => rfl
  | cons t rest ih => rw [toJsonAll, ih, List.map_cons]

theorem integral_toJsonAll {ts : List TypeExpr}
    (each : ∀ t ∈ ts, t.isIntegral = true → t.toJson.Integral) (integral : allIntegral ts = true) :
    ∀ t ∈ ts, t.toJson.Integral :=
  fun t mem => each t mem (allIntegral_iff.mp integral t mem)

theorem integral_toJsonOption {o : Option TypeExpr}
    (each : ∀ t, o = some t → t.isIntegral = true → t.toJson.Integral)
    (integral : optionIntegral o = true) : (toJsonOption o).Integral := by
  cases o with
  | none => exact .null
  | some t => exact each t rfl integral

/-- What is written of a type expression holds integers only, if its literals do. -/
theorem integral_toJson {t : TypeExpr} (integral : t.isIntegral = true) : t.toJson.Integral := by
  induction t using TypeExpr.induction with
  | literal choices =>
    exact Json.integral_single <| Json.integral_array fun l mem =>
      Literal.integral_toJson (List.all_eq_true.mp integral l mem)
  | var name => exact Json.integral_single (.string name)
  | named key args ih =>
    rw [toJson, toJsonAll_eq_map]
    refine Json.integral_single (.object (List.forall_mem_cons.mpr ⟨.string key, ?_⟩))
    exact Json.integral_listMember (integral_toJsonAll ih integral)
  | list element ih => exact Json.integral_single (integral_toJsonOption ih integral)
  | map key value ihk ihv =>
    obtain ⟨key, value⟩ := Bool.and_eq_true_iff.mp integral
    refine Json.integral_single (.object (List.forall_mem_cons.mpr ⟨?_, ?_⟩))
    · exact integral_toJsonOption ihk key
    · exact List.forall_mem_singleton.mpr (integral_toJsonOption ihv value)
  | tuple elements ih =>
    rw [toJson, toJsonAll_eq_map]
    exact Json.integral_single (Json.integral_array (integral_toJsonAll ih integral))
  | variadic element ih => exact Json.integral_single (ih integral)
  | union members ih =>
    rw [toJson, toJsonAll_eq_map]
    exact Json.integral_single (Json.integral_array (integral_toJsonAll ih integral))
  | required inner ih => exact Json.integral_single (ih integral)
  | notRequired inner ih => exact Json.integral_single (ih integral)
  | documented doc inner ih =>
    refine Json.integral_single (.object (List.forall_mem_cons.mpr ⟨.string doc, ?_⟩))
    exact List.forall_mem_singleton.mpr (ih integral)
  | _ => exact .string _

end TypeExpr

/-! ## Definitions -/

theorem FieldDef.integral_toJson {f : FieldDef} (integral : f.type.isIntegral = true) :
    f.toJson.Integral := by
  refine .object (List.forall_mem_append.mpr ⟨?_, ?_⟩)
  · simp only [List.forall_mem_cons, List.not_mem_nil, false_implies, implies_true, and_true]
    exact ⟨.string f.name, TypeExpr.integral_toJson integral, .bool f.optional⟩
  · exact Json.integral_optionalMember fun s _ => .string s

namespace TypeDef

/-- Are the numbers among the literals in a definition integers? -/
def isIntegral (definition : TypeDef) : Bool := definition.types.all TypeExpr.isIntegral

theorem integral_toJson {definition : TypeDef} (integral : definition.isIntegral = true) :
    definition.toJson.Integral := by
  have each := List.all_eq_true.mp integral
  cases definition with
  | record r =>
    refine .object (List.forall_mem_cons.mpr ⟨.string _, ?_⟩)
    simp only [RecordDef.members, List.forall_mem_append, List.forall_mem_singleton]
    refine ⟨⟨⟨⟨⟨.string r.name, ?_⟩, ?_⟩, ?_⟩, ?_⟩, ?_⟩
    · exact Json.integral_optionalMember fun s _ => .string s
    · exact Json.integral_listMember fun s _ => .string s
    · exact Json.integral_listMember fun t mem =>
        TypeExpr.integral_toJson (each t (base_mem_types mem))
    · exact Json.integral_array fun f mem =>
        FieldDef.integral_toJson (each f.type (field_mem_types mem))
    · exact Json.integral_optionalMember fun t extra =>
        TypeExpr.integral_toJson (each t (extra_mem_types extra))
  | aliased a =>
    refine .object (List.forall_mem_cons.mpr ⟨.string _, ?_⟩)
    simp only [AliasDef.members, List.forall_mem_append, List.forall_mem_singleton]
    refine ⟨⟨⟨.string a.name, ?_⟩, ?_⟩, TypeExpr.integral_toJson (each _ (.head _))⟩
    · exact Json.integral_optionalMember fun s _ => .string s
    · exact Json.integral_listMember fun s _ => .string s
  | opaqueType name =>
    exact .object <| List.forall_mem_cons.mpr
      ⟨.string _, List.forall_mem_singleton.mpr (.string name)⟩

end TypeDef

namespace Registry

/-- Are the numbers among the literals in the definitions integers? -/
def isIntegral (g : Registry) : Bool := g.types.all fun entry => entry.2.isIntegral

/-- What is written of a registry holds integers only, if the literals in its definitions do. -/
theorem integral_toJson {g : Registry} (integral : g.isIntegral = true) : g.toJson.Integral := by
  have each := List.all_eq_true.mp integral
  exact Json.integral_single <| .object <| List.forall_mem_map.mpr fun entry mem =>
    TypeDef.integral_toJson (each entry mem)

end Registry

end SchemaDialogue
