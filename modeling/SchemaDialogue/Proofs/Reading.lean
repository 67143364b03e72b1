import SchemaDialogue.Read.Record

/-!
# What was read

A reader that gives a value has been through every part of its draft without a failure. For a record
this means: what holds of the blank record, and is kept by every field that can be set, holds of
every record that is read, from an object as well as from an array.
-/

namespace SchemaDialogue.Read

variable {α β σ : Type} {Part : Draft → Prop} {r : Reading} {d : Draft}

/-- A step that went on gave something to go on with. -/
theorem exists_of_bind_eq_ok {ε : Type} {x : Except ε α} {f : α → Except ε β} {b : β}
    (given : (x >>= f) = .ok b) : ∃ a, x = .ok a ∧ f a = .ok b := by
  cases x with
  | error e => cases given
  | ok a => exact ⟨a, rfl, given⟩

theorem eq_ok_of_mapError {ε : Type} {x : Except ε α} {f : ε → Failure} {a : α}
    (given : x.mapError f = .ok a) : x = .ok a := by
  cases x with
  | error e => cases given
  | ok b => exact congrArg Except.ok (Except.ok.inj given)

theorem exists_of_map_eq_ok {ε : Type} {x : Except ε α} {f : α → β} {b : β}
    (given : x.map f = .ok b) : ∃ a, x = .ok a ∧ f a = b := by
  cases x with
  | error e => cases given
  | ok a => exact ⟨a, rfl, Except.ok.inj given⟩

/-- A reader that refuses a draft gives nothing. -/
theorem refuse_ne_ok (expected : Expected) (r : Reading) (d : Draft) (a : α) :
    refuse expected r d ≠ .ok a := by
  intro given
  cases d with
  | leaf t after =>
    rw [refuse] at given
    split at given <;> cases given
  | _ => cases given

/-- A natural number that was read is one of 64 bits. -/
theorem natural_lt {kind : String} {n : Nat} (given : natural kind r d = .ok n) : n < 2 ^ 64 := by
  obtain ⟨i, number, rfl⟩ := exists_of_map_eq_ok given
  rw [integer] at number
  obtain ⟨m, -, checked⟩ := exists_of_bind_eq_ok number
  cases m with
  | real x => cases checked
  | integer m =>
    dsimp only at checked
    split at checked
    case isTrue range =>
      cases checked
      omega
    case isFalse => cases checked

/-! ## Records -/

namespace RecordForm

/-- The blank record has a property, and no field that is set takes it away. -/
structure Keeps (form : RecordForm σ Part) (P : σ → Prop) : Prop where
  blank : P form.blank
  set : ∀ f ∈ form.fields, ∀ r d part update, f.read r d part = .ok update →
    ∀ s, P s → P (update s)

variable {form : RecordForm σ Part} {P : σ → Prop}

/-- The members of an object, of which those that are no field are skipped. -/
theorem Keeps.readMembers (keeps : form.Keeps P) {members : List (DraftKey × Draft)}
    {small : ∀ m ∈ members, Part m.2} {start stop : Progress σ} (begun : P start.current)
    (given : form.readMembers r start members small = .ok stop) : P stop.current := by
  induction members generalizing start with
  | nil =>
    cases given
    exact begun
  | cons m rest ih =>
    obtain ⟨k, d⟩ := m
    rw [RecordForm.readMembers] at given
    obtain ⟨name, -, given⟩ := exists_of_bind_eq_ok given
    dsimp only at given
    split at given
    case h_1 =>
      -- no field has the name, and the member is skipped if it is not refused
      split at given
      · cases given
      · split at given
        · obtain ⟨_, -, given⟩ := exists_of_bind_eq_ok given
          exact ih begun given
        · exact ih begun given
    case h_2 f found =>
      split at given
      · cases given
      · obtain ⟨update, read, given⟩ := exists_of_bind_eq_ok given
        have member := List.mem_of_find?_eq_some found
        exact ih (keeps.set f member _ _ _ _ (eq_ok_of_mapError read) _ begun) given

/-- The items of an array, one for each field. -/
theorem Keeps.readItems (keeps : form.Keeps P) {ending : Ending} {length n : Nat}
    {fields : List (Field σ Part)} (ours : ∀ f ∈ fields, f ∈ form.fields) {items : List Draft}
    {small : ∀ d ∈ items, Part d} {start stop : σ} (begun : P start)
    (given : form.readItems r ending length n start fields items small = .ok stop) : P stop := by
  induction fields generalizing items n start with
  | nil =>
    cases given
    exact begun
  | cons f fields ih =>
    have later : ∀ f ∈ fields, f ∈ form.fields := fun f mem => ours f (.tail _ mem)
    cases items with
    | nil =>
      rw [RecordForm.readItems] at given
      obtain ⟨_, -, given⟩ := exists_of_bind_eq_ok given
      split at given
      · exact ih later begun given
      · cases given
    | cons d rest =>
      rw [RecordForm.readItems] at given
      obtain ⟨update, read, given⟩ := exists_of_bind_eq_ok given
      have kept := keeps.set f (ours f (.head _)) _ _ _ _ (eq_ok_of_mapError read) _ begun
      dsimp only at given
      split at given
      · obtain ⟨_, -, given⟩ := exists_of_bind_eq_ok given
        exact ih later kept given
      · exact ih later kept given

/-- What every field keeps holds of a record that was read. -/
theorem Keeps.record {form : RecordForm σ fun _ => True} (keeps : form.Keeps P) {s : σ}
    (given : Read.record form r d = .ok s) : P s := by
  rw [Read.record, recordOf.eq_def] at given
  cases d with
  | array opening items ending after =>
    obtain ⟨inner, -, given⟩ := exists_of_bind_eq_ok given
    exact keeps.readItems (fun _ mem => mem) keeps.blank (eq_ok_of_mapError given)
  | object opening members ending after =>
    obtain ⟨inner, -, given⟩ := exists_of_bind_eq_ok given
    obtain ⟨progress, read, given⟩ := exists_of_bind_eq_ok (eq_ok_of_mapError given)
    obtain ⟨_, -, given⟩ := exists_of_bind_eq_ok given
    have kept := keeps.readMembers keeps.blank read
    rw [RecordForm.finish] at given
    split at given
    · cases given
    · cases given
      exact kept
  | _ => exact absurd given (refuse_ne_ok _ _ _ _)

end RecordForm

end SchemaDialogue.Read
