import Mathlib.Data.List.Forall2
import SchemaDialogue.Describe.Host
import SchemaDialogue.Proofs.Decimal
import SchemaDialogue.Proofs.Entries
import SchemaDialogue.Proofs.Verdict

/-!
# Values of host types

A host type has values (`HostType.Value`), and each value is written as JSON (`HostType.write`): an
optional value as `null` or as what it holds, sequences and tuples as arrays, maps as objects whose
member names are the texts of the keys. Only texts, characters, truth values and integers are keys.

Such a type is described by its structure alone, and the check accepts what is written:

* **keys**: the text of a key passes as a member name of the map that is described
  (`Names`), extreme integers included (`isIntegerKey_toString`);
* **values**: for each container, what is described for its parts makes up what is described for it
  (`Fits` and its lemmas), whatever the registry and however deep the types are nested;
* **result**: a structural type leaves the registry as it is, and each of its values is written and
  accepted (`HostType.findings_written`).
-/

namespace SchemaDialogue

namespace HostType

mutual

/-- The values of a type. Integers are those that JSON numbers of the integer kind hold, and numbers
with fractions are finite. Of a type that describes itself nothing is known but what is written. -/
def Value : HostType → Type
  | text => String
  | character => Char
  | truth => Bool
  | real => Binary64
  | integer => WideInt
  | anything => Json
  | nothing => Unit
  | pointer target => target.Value
  | optional inner => Option inner.Value
  | sequence item => List item.Value
  | mapping key value => List (key.Value × value.Value)
  | tuple parts => Values parts
  | described _ => Json

/-- The values of several types, one of each. -/
def Values : List HostType → Type
  | [] => Unit
  | t :: rest => t.Value × Values rest

end

/-- The text of a value that is the key of an entry. Other values are no keys. -/
def keyText : (t : HostType) → t.Value → Option String
  | text, s => some s
  | character, c => some (String.singleton c)
  | truth, true => some "true"
  | truth, false => some "false"
  | integer, n => some (toString n.value)
  | pointer target, x => target.keyText x
  | _, _ => none

/-- A member of an object, if both its name and its value are there. -/
def member? (name : Option String) (value : Option Json) : Option (String × Json) := do
  pure (← name, ← value)

mutual

/-- The JSON form of a value. There is none where a map has other keys than those that have texts;
of entries with one text the last counts. -/
def write : (t : HostType) → t.Value → Option Json
  | text, s => some (.string s)
  | character, c => some (.string (String.singleton c))
  | truth, b => some (.bool b)
  | real, x => some (.number (.real x))
  | integer, n => some (.number (.integer n))
  | anything, v => some v
  | nothing, _ => some .null
  | pointer target, x => target.write x
  | optional _, none => some .null
  | optional inner, some x => inner.write x
  | sequence item, xs => (xs.mapM item.write).map .array
  | mapping key value, entries =>
    (entries.mapM fun entry => member? (key.keyText entry.1) (value.write entry.2)).map fun members =>
      .object (Entries.ofList members)
  | tuple parts, xs => (writeAll parts xs).map .array
  | described _, v => some v

/-- The JSON forms of several values. -/
def writeAll : (ts : List HostType) → Values ts → Option (List Json)
  | [], _ => some []
  | t :: rest, (x, xs) => do
    let item ← t.write x
    let items ← writeAll rest xs
    pure (item :: items)

end

/-- Do the values have texts, so that they can be keys? -/
def isKey : HostType → Bool
  | text => true
  | character => true
  | truth => true
  | integer => true
  | pointer target => target.isKey
  | _ => false

mutual

/-- Is the type made of scalars and containers alone? -/
def isStructural : HostType → Bool
  | pointer target => target.isStructural
  | optional inner => inner.isStructural
  | sequence item => item.isStructural
  | mapping key value => key.isKey && value.isStructural
  | tuple parts => allStructural parts
  | described _ => false
  | _ => true

/-- Are all of these structural? -/
def allStructural : List HostType → Bool
  | [] => true
  | t :: rest => t.isStructural && allStructural rest

end

/-- Induction over host types; in lists it holds of each. -/
theorem induction {P : HostType → Prop} (text : P .text) (character : P .character)
    (truth : P .truth) (real : P .real) (integer : P .integer) (anything : P .anything)
    (nothing : P .nothing) (pointer : ∀ target, P target → P (.pointer target))
    (optional : ∀ inner, P inner → P (.optional inner))
    (sequence : ∀ item, P item → P (.sequence item))
    (mapping : ∀ key value, P key → P value → P (.mapping key value))
    (tuple : ∀ parts, (∀ t ∈ parts, P t) → P (.tuple parts))
    (described : ∀ action, P (.described action)) (t : HostType) : P t := by
  apply HostType.rec (motive_1 := P) (motive_2 := fun ts => ∀ t ∈ ts, P t) text character truth real
    integer anything nothing pointer optional sequence mapping tuple described
  · exact fun t h => by cases h
  · intro head tail ihh iht t h
    rcases List.mem_cons.mp h with rfl | h
    · exact ihh
    · exact iht t h

theorem allStructural_iff {ts : List HostType} :
    allStructural ts = true ↔ ∀ t ∈ ts, t.isStructural = true := by
  induction ts with
  | nil => simp [allStructural]
  | cons t rest ih => simp [allStructural, ih]

end HostType

/-! ## Keys -/

/-- The text of an integer in range is an integer as a member name. -/
theorem isIntegerKey_toString (i : WideInt) : isIntegerKey (toString i.value) = true := by
  have lower := i.lower
  have upper := i.upper
  rw [isIntegerKey]
  cases value : i.value with
  | ofNat n =>
    rw [value, Int.ofNat_eq_natCast] at upper
    have text : (toString (Int.ofNat n)).toList = Nat.toDigits 10 n := Nat.toList_repr
    have small : n < 2 ^ 64 := by omega
    rw [text]
    -- the first character is a digit
    split
    · rename_i rest digits
      have mem : '-' ∈ Nat.toDigits 10 n := digits ▸ .head _
      exact absurd (Text.isDigit_toDigits mem) (by decide)
    · rw [Text.word64?_toDigits small]
      rfl
  | negSucc n =>
    have small : n + 1 ≤ 2 ^ 63 := by omega
    simp only [Text.toList_toString_negSucc, Text.decimal?_toDigits, small, decide_true]

namespace HostType

/-- The type is described by this type of keys, whatever the registry, and as a member name the text
of each key passes. -/
structure Names (t : HostType) (a : TypeExpr) : Prop where
  described : ∀ registry, t.describe.run registry = (a, registry)
  passes : ∀ x, ∃ name, t.keyText x = some name ∧ keyKindFindings (some a) name = [] ∧
    keyType? (some a) = none

/-- The type is described by this type, whatever the registry, and each of its values is written and
accepted, whatever the source. -/
structure Fits (t : HostType) (a : TypeExpr) : Prop where
  described : ∀ registry, t.describe.run registry = (a, registry)
  accepted : ∀ x, ∃ v, t.write x = some v ∧
    ∀ (source : Registry) scope left, source.check scope left a v = []

theorem exists_names {t : HostType} (key : t.isKey = true) : ∃ a, t.Names a := by
  induction t using HostType.induction with
  | text => exact ⟨.string, fun _ => rfl, fun s => ⟨s, rfl, rfl, rfl⟩⟩
  | character => exact ⟨.string, fun _ => rfl, fun c => ⟨.singleton c, rfl, rfl, rfl⟩⟩
  | truth =>
    refine ⟨.boolean, fun _ => rfl, fun b => ?_⟩
    cases b with
    | true => exact ⟨"true", rfl, rfl, rfl⟩
    | false => exact ⟨"false", rfl, rfl, rfl⟩
  | integer =>
    refine ⟨.integer, fun _ => rfl, fun i => ⟨toString i.value, rfl, ?_, rfl⟩⟩
    exact if_pos (isIntegerKey_toString i)
  | pointer target ih =>
    obtain ⟨a, names⟩ := ih key
    exact ⟨a, names.described, names.passes⟩
  | _ => cases key

/-! ## Values -/

/-- What each item gives is gathered. -/
theorem exists_mapM {α β : Type} {f : α → Option β} {P : β → Prop} {l : List α}
    (each : ∀ a ∈ l, ∃ b, f a = some b ∧ P b) : ∃ bs, l.mapM f = some bs ∧ ∀ b ∈ bs, P b := by
  induction l with
  | nil => exact ⟨[], rfl, fun b h => by cases h⟩
  | cons a rest ih =>
    obtain ⟨b, found, holds⟩ := each a (.head _)
    obtain ⟨bs, others, all⟩ := ih fun a mem => each a (.tail _ mem)
    refine ⟨b :: bs, ?_, List.forall_mem_cons.mpr ⟨holds, all⟩⟩
    rw [List.mapM_cons, found, others]
    rfl

namespace Fits

open Registry

variable {t key value : HostType} {a keyType valueType : TypeExpr}

/-- A description that goes on from that of a part. -/
theorem run_bind (fits : t.Fits a) (next : TypeExpr → StateM Registry TypeExpr)
    (registry : Registry) : (t.describe >>= next).run registry = (next a).run registry := by
  rw [StateT.run_bind, fits.described]
  rfl

theorem pointer (fits : t.Fits a) : (HostType.pointer t).Fits a := ⟨fits.described, fits.accepted⟩

theorem optional (fits : t.Fits a) : (HostType.optional t).Fits (.nullable a) where
  described := fits.run_bind fun a => pure (.nullable a)
  accepted x := by
    cases x with
    | none =>
      refine ⟨.null, rfl, fun source scope left => ?_⟩
      exact check_union_eq_nil.mpr ⟨.null, .tail _ (.head _), check_null_eq_nil.mpr rfl⟩
    | some x =>
      obtain ⟨v, written, accepted⟩ := fits.accepted x
      refine ⟨v, written, fun source scope left => ?_⟩
      exact check_union_eq_nil.mpr ⟨a, .head _, accepted source scope _⟩

theorem sequence (fits : t.Fits a) : (HostType.sequence t).Fits (.list (some a)) where
  described := fits.run_bind fun a => pure (.list (some a))
  accepted xs := by
    obtain ⟨items, written, accepted⟩ := exists_mapM (l := xs) fun x _ => fits.accepted x
    refine ⟨.array items, ?_, fun source scope left => ?_⟩
    · show (List.mapM t.write xs).map Json.array = _
      rw [written]
      rfl
    · exact check_list_eq_nil.mpr ⟨items, rfl, fun item mem => accepted item mem source scope _⟩

theorem mapping (fits : value.Fits valueType) (names : key.Names keyType) :
    (HostType.mapping key value).Fits (.map (some keyType) (some valueType)) where
  described registry := by
    show (key.describe >>= _).run registry = _
    rw [StateT.run_bind, names.described]
    exact fits.run_bind (fun v => pure (.map (some keyType) (some v))) registry
  accepted entries := by
    -- each entry becomes a member whose name passes as a key and whose value is accepted
    have member (entry : key.Value × value.Value) :
        ∃ m, member? (key.keyText entry.1) (value.write entry.2) = some m ∧
          (keyKindFindings (some keyType) m.1 = [] ∧ keyType? (some keyType) = none) ∧
          ∀ (source : Registry) scope left, source.check scope left valueType m.2 = [] := by
      obtain ⟨name, text, passes⟩ := names.passes entry.1
      obtain ⟨item, written, accepted⟩ := fits.accepted entry.2
      exact ⟨(name, item), by rw [text, written]; rfl, passes, accepted⟩
    obtain ⟨members, written, all⟩ := exists_mapM (l := entries) fun entry _ => member entry
    refine ⟨.object (Entries.ofList members), ?_, fun source scope left => ?_⟩
    · rw [write, written]
      rfl
    · refine check_map_eq_nil.mpr ⟨_, rfl, fun name item mem => ?_⟩
      obtain ⟨⟨kind, free⟩, accepted⟩ := all _ (Entries.mem_of_mem_ofList mem)
      refine ⟨kind, fun narrow some => ?_, fun t some => ?_⟩
      · rw [free] at some
        cases some
      · cases some
        exact accepted source scope _

end Fits

/-- The parts of a tuple are described one after the other, and written in order. -/
theorem exists_fitsAll {ts : List HostType} (each : ∀ t ∈ ts, ∃ a, t.Fits a) :
    ∃ as, (∀ registry, (describeAll ts).run registry = (as, registry)) ∧
      ∀ xs : Values ts, ∃ items, writeAll ts xs = some items ∧
        List.Forall₂ (fun a item => ∀ (source : Registry) scope left,
          source.check scope left a item = []) as items := by
  induction ts with
  | nil => exact ⟨[], fun _ => rfl, fun _ => ⟨[], rfl, .nil⟩⟩
  | cons t rest ih =>
    obtain ⟨a, fits⟩ := each t (.head _)
    obtain ⟨as, described, accepted⟩ := ih fun t mem => each t (.tail _ mem)
    refine ⟨a :: as, fun registry => ?_, fun xs => ?_⟩
    · show (t.describe >>= _).run registry = _
      rw [StateT.run_bind, fits.described]
      show (describeAll rest >>= _).run registry = _
      rw [StateT.run_bind, described]
      rfl
    · obtain ⟨x, xs⟩ := xs
      obtain ⟨item, written, ok⟩ := fits.accepted x
      obtain ⟨items, writtenAll, allOk⟩ := accepted xs
      refine ⟨item :: items, ?_, .cons ok allOk⟩
      rw [writeAll, written, writtenAll]
      rfl

theorem Fits.exists_tuple {ts : List HostType} (each : ∀ t ∈ ts, ∃ a, t.Fits a) :
    ∃ a, (HostType.tuple ts).Fits a := by
  obtain ⟨as, described, accepted⟩ := exists_fitsAll each
  refine ⟨.tuple as, fun registry => ?_, fun xs => ?_⟩
  · show (describeAll ts >>= _).run registry = _
    rw [StateT.run_bind, described]
    rfl
  · obtain ⟨items, written, ok⟩ := accepted xs
    refine ⟨.array items, ?_, fun source scope left => ?_⟩
    · show (writeAll ts xs).map Json.array = _
      rw [written]
      rfl
    · refine Registry.check_tuple_eq_nil.mpr ⟨items, rfl, ok.length_eq.symm, fun p mem => ?_⟩
      exact (List.forall₂_iff_zip.mp ok).2 mem source scope _

/-- Each structural type has a type expression that describes it and accepts its values. -/
theorem exists_fits {t : HostType} (structural : t.isStructural = true) : ∃ a, t.Fits a := by
  induction t using HostType.induction with
  | text =>
    refine ⟨.string, fun _ => rfl, fun s => ⟨.string s, rfl, fun source scope left => ?_⟩⟩
    exact Registry.check_string_eq_nil.mpr rfl
  | character =>
    refine ⟨.string, fun _ => rfl, fun c => ⟨_, rfl, fun source scope left => ?_⟩⟩
    exact Registry.check_string_eq_nil.mpr rfl
  | truth =>
    refine ⟨.boolean, fun _ => rfl, fun b => ⟨_, rfl, fun source scope left => ?_⟩⟩
    exact Registry.check_boolean_eq_nil.mpr rfl
  | real =>
    refine ⟨.number, fun _ => rfl, fun x => ⟨_, rfl, fun source scope left => ?_⟩⟩
    exact Registry.check_number_eq_nil.mpr rfl
  | integer =>
    refine ⟨.integer, fun _ => rfl, fun i => ⟨_, rfl, fun source scope left => ?_⟩⟩
    exact Registry.check_integer_eq_nil.mpr rfl
  | anything =>
    exact ⟨.any, fun _ => rfl, fun v => ⟨v, rfl, fun source scope left => Registry.check_any⟩⟩
  | nothing =>
    refine ⟨.null, fun _ => rfl, fun x => ⟨_, rfl, fun source scope left => ?_⟩⟩
    exact Registry.check_null_eq_nil.mpr rfl
  | pointer target ih =>
    obtain ⟨a, fits⟩ := ih structural
    exact ⟨a, fits.pointer⟩
  | optional inner ih =>
    obtain ⟨a, fits⟩ := ih structural
    exact ⟨_, fits.optional⟩
  | sequence item ih =>
    obtain ⟨a, fits⟩ := ih structural
    exact ⟨_, fits.sequence⟩
  | mapping key value _ ih =>
    obtain ⟨isKey, structural⟩ := Bool.and_eq_true_iff.mp structural
    obtain ⟨k, names⟩ := exists_names isKey
    obtain ⟨v, fits⟩ := ih structural
    exact ⟨_, fits.mapping names⟩
  | tuple parts ih =>
    exact Fits.exists_tuple fun t mem => ih t mem (allStructural_iff.mp structural t mem)
  | described action => cases structural

/-- **What is written for a value of a structural type is accepted.** Describing the type gives the
same type expression for every registry, and leaves the registry as it is; and each value of the
type is written, and nothing is found about what is written. -/
theorem findings_written {t : HostType} (structural : t.isStructural = true) :
    ∃ a, (∀ registry, t.describe.run registry = (a, registry)) ∧
      ∀ x : t.Value, ∃ v, t.write x = some v ∧ ∀ source : Registry, source.findings a v = [] := by
  obtain ⟨a, fits⟩ := exists_fits structural
  refine ⟨a, fits.described, fun x => ?_⟩
  obtain ⟨v, written, accepted⟩ := fits.accepted x
  exact ⟨v, written, fun source => accepted source .empty expansionLimit⟩

/-- A map under integers, with optional pairs inside that hold maps under truth values. -/
def seating : HostType :=
  .mapping .integer (.sequence (.optional (.tuple
    [.character, .pointer (.mapping .truth (.optional .integer))])))

/-- The least and the greatest key that there is, and the greatest integer inside. -/
def fullHouse : seating.Value :=
  [(⟨-2 ^ 63, by decide, by decide⟩,
      [none, some ('é', [(true, some ⟨2 ^ 64 - 1, by decide, by decide⟩), (false, none)], ())]),
    (⟨2 ^ 64 - 1, by decide, by decide⟩, [])]

/-- What is written for it, under the texts of its keys. -/
def fullHouseJson : Json :=
  .object [
    ("-9223372036854775808", .array [.null, .array [.string "é", .object [
      ("true", .number (.integer ⟨2 ^ 64 - 1, by decide, by decide⟩)), ("false", .null)]]]),
    ("18446744073709551615", .array [])]

theorem findings_fullHouse :
    seating.isStructural = true ∧
    ∃ a, seating.describe.run .empty = (a, .empty) ∧
      seating.write fullHouse = some fullHouseJson ∧
      Registry.empty.findings a fullHouseJson = [] := by
  obtain ⟨a, described, accepted⟩ := findings_written (t := seating) rfl
  obtain ⟨v, written, nothing⟩ := accepted fullHouse
  have json : seating.write fullHouse = some fullHouseJson := rfl
  obtain rfl : v = fullHouseJson := Option.some.inj (written.symm.trans json)
  exact ⟨rfl, a, described .empty, json, nothing .empty⟩

end HostType

end SchemaDialogue
