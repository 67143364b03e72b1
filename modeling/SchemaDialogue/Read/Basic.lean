import SchemaDialogue.Read.Failure

/-!
# Reading leaves, options and lists

Each reader takes how to read and a draft. A leaf of the wrong kind is read to its end and then
refused; an array or an object of the wrong kind is refused before it is entered.
-/

namespace SchemaDialogue.Read

/-- A reader of a type. -/
abbrev Reader (α : Type) := Reading → Draft → Outcome α

/-- What a value is shown as. -/
def shown : Json → Shown
  | .null => .null
  | .bool b => .bool b
  | .number n => .number n
  | .string s => .text s
  | .array _ => .sequence
  | .object _ => .map

/-- Refuse a draft that is not what is expected. -/
def refuse {α : Type} (expected : Expected) (r : Reading) : Draft → Outcome α
  | .absent p => .error (.fault ⟨.endInValue, p⟩)
  | .barred fault => .error (.fault fault)
  | .array opening _ _ _ => r.failAt opening.start (.wrongType .sequence expected)
  | .object opening _ _ _ => r.failAt opening.start (.wrongType .map expected)
  | .leaf t _ =>
    match Draft.leafValue t with
    | .error fault => .error (.fault fault)
    | .ok v => r.failAt t.stop (.wrongType (shown v) expected)

/-! ## Leaves -/

/-- Read any JSON value. -/
def json : Reader Json := fun r d => .ofFault (d.value r.nesting)

/-- Read a string, refusing others as not what is expected. -/
def textAs (expected : Expected) : Reader String := fun r d =>
  match d with
  | .leaf ⟨.text (.ok s), _, _, _⟩ _ => .ok s
  | d => refuse expected r d

def text : Reader String := textAs .text

def boolean : Reader Bool := fun r d =>
  match d with
  | .leaf ⟨.word .true, _, _, _⟩ _ => .ok true
  | .leaf ⟨.word .false, _, _, _⟩ _ => .ok false
  | d => refuse .boolean r d

/-- Read the value `null`. Among buffered members an empty object will do as well. -/
def null : Reader Unit := fun r d =>
  match d with
  | .leaf ⟨.word .null, _, _, _⟩ _ => .ok ()
  | .object _ [] _ _ => if r.source = .buffered then .ok () else refuse .null r d
  | d => refuse .null r d

def number (expected : Expected) : Reader Number := fun r d =>
  match d with
  | .leaf ⟨.numeral (.ok n), _, _, _⟩ _ => .ok n
  | d => refuse expected r d

/-- The place after a draft that is a leaf. -/
def leafStop : Draft → Place
  | .leaf t _ => t.stop
  | d => d.after.start

/-- Read an integer from `lower` up to `upper`, a range that goes by the name `kind`. -/
def integer (kind : String) (lower upper : Int) : Reader Int := fun r d => do
  match ← number (.integer kind) r d with
  | .integer n =>
    if lower ≤ n.value ∧ n.value ≤ upper then .ok n.value
    else r.failAt (leafStop d) (.wrongValue (.number (.integer n)) (.integer kind))
  | .real x => r.failAt (leafStop d) (.wrongType (.number (.real x)) (.integer kind))

/-- Read a natural number below 2⁶⁴, of a range that goes by the name `kind`. -/
def natural (kind : String) : Reader Nat := fun r d =>
  (integer kind 0 (2 ^ 64 - 1) r d).map Int.toNat

/-- Read a number as a double. -/
def real : Reader Binary64 := fun r d =>
  (number .real r d).map fun n => n.toBinary64?.getD (.zero false)

/-! ## Options and lists -/

/-- Read `null` as nothing, and all else as something. -/
def optional {α : Type} (item : Reader α) : Reader (Option α) := fun r d =>
  match d with
  | .leaf ⟨.word .null, _, _, _⟩ _ => .ok none
  | .leaf ⟨.broken (.word .null) strict _, _, _, _⟩ _ => .error (.fault strict)
  | d => (item r d).map some

/-- Read the items of a list, each one with the proof that it is one. -/
def itemsFrom {α : Type} (n : Nat) :
    (items : List Draft) → (read : (d : Draft) → d ∈ items → Outcome α) → Outcome (List α)
  | [], _ => .ok []
  | d :: rest, read => do
    let first ← Outcome.within (.index n) (read d (.head _))
    let others ← itemsFrom (n + 1) rest fun d h => read d (.tail _ h)
    pure (first :: others)

/-- Read a sequence, whose items are smaller drafts. -/
def sequenceOf {α : Type} (r : Reading) (d : Draft)
    (item : Reading → (c : Draft) → d.Below c → Outcome α) : Outcome (List α) :=
  match d with
  | .array opening items ending after => do
    let inner ← r.descend opening
    Outcome.settle Stream.placeInArray <| do
      let values ← itemsFrom 0 items fun c h => item inner c (by
        have := List.sizeOf_lt_of_mem h
        simp only [Draft.Below, Draft.array.sizeOf_spec]; omega)
      Outcome.ofFault (Draft.checkEnding ending)
      pure values
  | d => refuse .sequence r d

def sequence {α : Type} (item : Reader α) : Reader (List α) := fun r d =>
  sequenceOf r d fun inner c _ => item inner c

/-- Read the entries of a mapping into those read before. -/
def entries {α : Type} (item : Reader α) (r : Reading) (known : Entries α) :
    List (DraftKey × Draft) → Outcome (Entries α)
  | [] => .ok known
  | (k, d) :: rest => do
    let name ← Outcome.ofFault (Draft.keyText k.token)
    let value ← Outcome.within (.key name) (item r d)
    entries item r (known.insert name value) rest

/-- Read a mapping; a repeated key keeps its first position and its last value. -/
def mapping {α : Type} (item : Reader α) : Reader (Entries α) := fun r d =>
  match d with
  | .object opening members ending _ => do
    let inner ← r.descend opening
    Outcome.settle Stream.placeInObject <| do
      let values ← entries item inner [] members
      Outcome.ofFault (Draft.checkEnding ending)
      pure values
  | d => refuse .mapping r d

/-- A list that has been read to the last item that is wanted must end there. -/
def checkListEnd : Stream → Except Fault Unit
  | .finish p => .error ⟨.endInList, p⟩
  | .token ⟨.endArray, _, _, _⟩ _ => .ok ()
  | .token ⟨.comma, _, _, _⟩ (.token ⟨.endArray, _, peeked, _⟩ _) =>
    .error ⟨.trailingComma, peeked⟩
  | .token ⟨.comma, _, _, _⟩ rest => .error ⟨.trailingCharacters, rest.peeked⟩
  | .token t _ => .error ⟨.trailingCharacters, t.peeked⟩

/-- After `wanted` items, the last of which is `last`, a list of `length` items must end. -/
def checkLength (r : Reading) (wanted length : Nat) (last : Draft) : Outcome Unit :=
  match r.source with
  | .text => .ofFault (checkListEnd last.after)
  | .value =>
    if length = wanted then .ok () else r.failAfter last.after (.wrongLength length .fewerElements)
  | _ =>
    if length = wanted then .ok ()
    else r.failAfter last.after (.wrongLength length (.sequenceOf wanted))

/-- The place after a list that ends properly. -/
def endingPlace : Ending → Place
  | .closed closing => closing.stop
  | .stuck _ before => before.start

def pair {α β : Type} (first : Reader α) (second : Reader β) : Reader (α × β) := fun r d =>
  match d with
  | .array opening items ending _ => do
    let inner ← r.descend opening
    Outcome.settle Stream.placeInArray <|
      match items with
      | [] => do
        Outcome.ofFault (Draft.checkEnding ending)
        inner.failAt (endingPlace ending) (.wrongLength 0 (.tuple 2))
      | [a] => do
        let _ ← Outcome.within (.index 0) (first inner a)
        Outcome.ofFault (Draft.checkEnding ending)
        inner.failAt (endingPlace ending) (.wrongLength 1 (.tuple 2))
      | a :: b :: rest => do
        let x ← Outcome.within (.index 0) (first inner a)
        let y ← Outcome.within (.index 1) (second inner b)
        checkLength inner 2 (rest.length + 2) b
        pure (x, y)
  | d => refuse (.tuple 2) r d

end SchemaDialogue.Read
