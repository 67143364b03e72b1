import SchemaDialogue.Read.Basic

/-!
# Reading records

A record is read from an object, whose members come in any order, or from an array of its fields in
declaration order. Reading starts from a blank record and each field that is met sets its part, so
the first failure in the order of the text is the one reported.
-/

namespace SchemaDialogue.Read

/-- What happens when a field is not given. -/
inductive Presence where
  /-- An object must name it, and an array must reach it. -/
  | required
  /-- An object may leave it out, but an array must reach it. -/
  | nullable
  /-- Its value in the blank record stands. -/
  | defaulted
deriving DecidableEq

/-- A field of a record of type `σ`, read from drafts that are a `Part` of the record's. -/
structure Field (σ : Type) (Part : Draft → Prop) where
  name : String
  presence : Presence
  read : Reading → (d : Draft) → Part d → Outcome (σ → σ)

/-- The form of a record. -/
structure RecordForm (σ : Type) (Part : Draft → Prop) where
  /-- How messages name it. -/
  expected : Expected
  fields : List (Field σ Part)
  /-- The record before any field is met. -/
  blank : σ
  /-- Members that are no field are refused. -/
  closed : Bool := false

/-- A field read with a reader of its own. -/
def field {σ α : Type} {Part : Draft → Prop} (name : String) (presence : Presence) (item : Reader α)
    (set : α → σ → σ) : Field σ Part :=
  ⟨name, presence, fun r d _ => (item r d).map set⟩

namespace RecordForm

variable {σ : Type} {Part : Draft → Prop}

def names (form : RecordForm σ Part) : List String := form.fields.map (·.name)

/-- A record while its members are read: what is set, and which fields have been met. -/
structure Progress (σ : Type) where
  current : σ
  met : List String

/-- Read the members of an object. -/
def readMembers (form : RecordForm σ Part) (r : Reading) (progress : Progress σ) :
    (members : List (DraftKey × Draft)) → (∀ m ∈ members, Part m.2) →
    Outcome (Progress σ)
  | [], _ => .ok progress
  | (k, d) :: rest, small => do
    let name ← Outcome.ofFault (Draft.keyText k.token)
    let others : ∀ m ∈ rest, Part m.2 := fun m h => small m (.tail _ h)
    match form.fields.find? (·.name = name) with
    | none =>
      if form.closed then
        Outcome.within (.key name) (r.failAfter k.after (.unknownField name form.names))
      else do
        -- A member that nobody asks for still has to be read to its end.
        if r.source = .text then Outcome.ofFault d.skip
        readMembers form r progress rest others
    | some f =>
      if name ∈ progress.met then r.failAfter k.after (.duplicateField name)
      else do
        let set ← Outcome.within (.key name) (f.read r d (small (k, d) (.head _)))
        readMembers form r ⟨set progress.current, name :: progress.met⟩ rest others

/-- Every required field has been met. -/
def finish (form : RecordForm σ Part) (r : Reading) (stop : Place) (progress : Progress σ) :
    Outcome σ :=
  match form.fields.find? fun f => f.presence = .required && !progress.met.contains f.name with
  | some f => r.failAt stop (.missingField f.name)
  | none => .ok progress.current

/-- Read the items of an array as fields in declaration order. -/
def readItems (form : RecordForm σ Part) (r : Reading) (ending : Ending) (length : Nat) (n : Nat)
    (current : σ) :
    List (Field σ Part) → (items : List Draft) → (∀ d ∈ items, Part d) → Outcome σ
  | [], _, _ => .ok current
  | f :: fields, [], small => do
    Outcome.ofFault (Draft.checkEnding ending)
    if f.presence = .defaulted then readItems form r ending length (n + 1) current fields [] small
    else
      r.failAt (endingPlace ending) (.wrongLength n (.elements form.expected form.fields.length))
  | f :: fields, d :: rest, small => do
    let set ← Outcome.within (.index n) (f.read r d (small d (.head _)))
    -- Surplus items are noticed behind the last field.
    if fields.isEmpty then checkLength r (n + 1) length d
    readItems form r ending length (n + 1) (set current) fields rest fun c h => small c (.tail _ h)

/-- Read the members of an object as a record. -/
def readObject (form : RecordForm σ Part) (r : Reading) (members : List (DraftKey × Draft))
    (ending : Ending) (small : ∀ m ∈ members, Part m.2) : Outcome σ :=
  Outcome.settle Stream.placeInObject do
    let progress ← form.readMembers r ⟨form.blank, []⟩ members small
    Outcome.ofFault (Draft.checkEnding ending)
    form.finish r (endingPlace ending) progress

/-- Read the items of an array as a record. -/
def readArray (form : RecordForm σ Part) (r : Reading) (items : List Draft) (ending : Ending)
    (small : ∀ d ∈ items, Part d) : Outcome σ :=
  Outcome.settle Stream.placeInArray
    (form.readItems r ending items.length 0 form.blank form.fields items small)

end RecordForm

theorem item_below {opening : Token} {items : List Draft} {ending : Ending} {after : Stream}
    {d : Draft} (h : d ∈ items) : Draft.Below (.array opening items ending after) d := by
  have := List.sizeOf_lt_of_mem h
  simp only [Draft.Below, Draft.array.sizeOf_spec]; omega

theorem member_below {opening : Token} {members : List (DraftKey × Draft)} {ending : Ending}
    {after : Stream} {m : DraftKey × Draft} (h : m ∈ members) :
    Draft.Below (.object opening members ending after) m.2 := by
  have := List.sizeOf_lt_of_mem h
  obtain ⟨k, d⟩ := m
  simp only [Draft.Below, Draft.object.sizeOf_spec, Prod.mk.sizeOf_spec] at *; omega

/-- Read a record, its fields from drafts smaller than this one. -/
def recordOf {σ : Type} {Part : Draft → Prop} (r : Reading) (d : Draft) (form : RecordForm σ Part)
    (parts : ∀ c, d.Below c → Part c) : Outcome σ :=
  match d with
  | .array opening items ending _ => do
    let inner ← r.descend opening
    form.readArray inner items ending fun c h => parts c (item_below h)
  | .object opening members ending _ => do
    let inner ← r.descend opening
    form.readObject inner members ending fun m h => parts m.2 (member_below h)
  | d => refuse form.expected r d

def record {σ : Type} (form : RecordForm σ fun _ => True) : Reader σ := fun r d =>
  recordOf r d form fun _ _ => trivial

end SchemaDialogue.Read
