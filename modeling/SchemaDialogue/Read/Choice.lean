import SchemaDialogue.Read.Record

/-!
# Reading choices

A choice is one of several named variants. It is written as the bare name, or as an object whose
only member is the name with the variant's content. A tagged type is an object in which one member,
the tag, names the variant and the others are its fields; they are buffered until the tag is known.
An untagged type is the first of several alternatives that can be read.
-/

namespace SchemaDialogue.Read

/-- What is given for a variant: its bare name, or a content that is a `Part` of the choice's. -/
inductive Given (Part : Draft → Prop) where
  | bare (after : Stream)
  | content (d : Draft) (part : Part d)

/-- The fault at the end of an object that should hold one variant. -/
def checkVariantEnd : Stream → Except Fault Unit
  | .finish p => .error ⟨.endInObject, p⟩
  | .token ⟨.endObject, _, _, _⟩ _ => .ok ()
  | .token t _ => .error ⟨.expectedValue, t.start⟩

/-- A name that no variant has. -/
def unknownVariant {α : Type} (r : Reading) (place : Place) (name : String)
    (names : List String) : Outcome α :=
  r.failAt place (.unknownVariant name names)

/-- Read a choice between the named variants. -/
def choiceOf {α : Type} (r : Reading) (names : List String) (d : Draft)
    (variant : Reading → String → Given d.Below → Outcome α) : Outcome α :=
  match d with
  | .leaf ⟨.text (.ok name), _, _, stop⟩ after =>
    if name ∈ names then Outcome.within (.key name) (variant r name (.bare after))
    else unknownVariant r stop name names
  | .object opening members ending after =>
    -- A text is read as it comes: a surplus member is met only behind the variant.
    if r.source = .text then do
      let inner ← r.descend opening
      match h : members with
      | [] =>
        match ending with
        | .closed closing => .error (.fault ⟨.expectedValue, closing.peeked⟩)
        | .stuck wanted before => .error (.fault (wanted.strictFault before))
      | (k, c) :: others => do
        let name ← Outcome.ofFault (Draft.keyText k.token)
        if name ∈ names then do
          let value ← Outcome.within (.key name) <| variant inner name <|
            .content c (member_below (m := (k, c)) (by rw [h]; exact .head others))
          Outcome.ofFault (checkVariantEnd c.after)
          pure value
        else unknownVariant inner k.token.stop name names
    else
      -- Elsewhere all members are known at once, and there must be one.
      match members with
      | [(k, c)] => do
        let name ← Outcome.ofFault (Draft.keyText k.token)
        if name ∈ names then
          Outcome.within (.key name) <| variant r name <|
            .content c (member_below (m := (k, c)) (.head []))
        else unknownVariant r k.token.stop name names
      | _ => r.failAfter after (.wrongValue .map .singleMember)
  | d =>
    if r.source = .text then
      match d with
      | .leaf t _ =>
        match t.kind with
        | .text (.error fault) => .error (.fault fault)
        | .broken .text strict _ => .error (.fault strict)
        | _ => .error (.fault ⟨.expectedValue, t.peeked⟩)
      | .array opening _ _ _ => .error (.fault ⟨.expectedValue, opening.peeked⟩)
      | d => refuse .textOrMapping r d
    else refuse .textOrMapping r d

def bareVariant {Part : Draft → Prop} (r : Reading) : Given Part → Outcome Unit
  | .bare _ => .ok ()
  | .content d _ => null r d

def valueVariant {α : Type} {Part : Draft → Prop} (r : Reading) (given : Given Part)
    (item : (d : Draft) → Part d → Outcome α) : Outcome α :=
  match given with
  | .bare after => r.failAfter after (.wrongType .bareVariant .variantWithValue)
  | .content d part => item d part

/-- A variant with fields. From a value only an object will do. -/
def recordVariant {σ : Type} {d : Draft} (r : Reading) (given : Given d.Below)
    (form : RecordForm σ d.Below) : Outcome σ :=
  match given with
  | .bare after => r.failAfter after (.wrongType .bareVariant .variantWithMembers)
  | .content (.array opening items ending _) part =>
    if r.source = .value then
      r.failAt opening.start (.wrongType .sequence .variantWithMembers)
    else do
      let inner ← r.descend opening
      form.readArray inner items ending fun _ h => Nat.lt_trans (item_below h) part
  | .content (.object opening members ending _) part => do
    let inner ← r.descend opening
    form.readObject inner members ending fun _ h => Nat.lt_trans (member_below h) part
  | .content d _ =>
    refuse (if r.source = .text then form.expected else .variantWithMembers) r d

/-- Read one of several names; each stands for a value. -/
def nameOf {α : Type} (names : List (String × α)) : Reader α := fun r d =>
  choiceOf r (names.map (·.1)) d fun inner name given => do
    bareVariant inner given
    match names.lookup name with
    | some value => pure value
    | none => unknownVariant inner (leafStop d) name (names.map (·.1))

/-! ## Tagged types -/

/-- Read the name of a variant as a string. -/
def variantName (names : List String) : Reader String := fun r d => do
  let name ← textAs .variantName r d
  if name ∈ names then pure name else unknownVariant r (leafStop d) name names

/-- Read the members of a tagged type: the tag's variant if it is met, and the other members, which
must be readable as JSON. -/
def taggedMembers (tag : String) (names : List String) (r : Reading) (found : Option String) :
    List (DraftKey × Draft) → Outcome (Option String × List (DraftKey × Draft))
  | [] => .ok (found, [])
  | (k, d) :: rest => do
    let key ← Outcome.ofFault (Draft.keyText k.token)
    if key = tag then
      if found.isSome then r.failAfter k.after (.duplicateField tag)
      else do
        let name ← Outcome.within (.key key) (variantName names r d)
        taggedMembers tag names r (some name) rest
    else do
      let _ ← json r d
      let (name, others) ← taggedMembers tag names r found rest
      pure (name, (k, d) :: others)

/-- Read a tagged type. An array holds the tag first and then the fields. -/
def tagged {α : Type} (type tag : String) (names : List String)
    (variant : String → Reader α) : Reader α := fun r d =>
  match d with
  | .object opening members ending after => do
    let inner ← r.descend opening
    let (name, others) ← Outcome.settle Stream.placeInObject do
      let (found, others) ← taggedMembers tag names inner none members
      Outcome.ofFault (Draft.checkEnding ending)
      match found with
      | some name => pure (name, others)
      | none => inner.failAt (endingPlace ending) (.missingField tag)
    (variant name .buffered (.object opening others ending after)).mapError
      (·.detach (if r.source = .text then .after after else .nowhere))
  | .array opening items ending after => do
    let inner ← r.descend opening
    let (name, others) ← Outcome.settle Stream.placeInArray <|
      match items with
      | [] => do
        Outcome.ofFault (Draft.checkEnding ending)
        inner.failAt (endingPlace ending) (.missingField tag)
      | first :: rest => do
        let name ← Outcome.within (.index 0) (variantName names inner first)
        Outcome.ofFault do
          let _ ← Draft.itemValues inner.nesting rest
          Draft.checkEnding ending
        pure (name, rest)
    (variant name .buffered (.array opening others ending after)).mapError
      (·.detach (if r.source = .text then .after after else .nowhere))
  | d => refuse (.tagged type) r d

/-! ## Untagged types -/

/-- Read the first alternative that can be read. -/
def untagged {α : Type} (type : String) (alternatives : List (Reader α)) : Reader α := fun r d => do
  if r.source = .text then
    let _ ← json r d
  match alternatives.findSome? fun item => (item .shared d).toOption with
  | some value => pure value
  | none => r.failAfter d.after (.noAlternative type)

end SchemaDialogue.Read
