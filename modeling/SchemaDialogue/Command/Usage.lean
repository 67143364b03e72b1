/-!
# Options of a command line

A command is described by its options: their long and short names, whether they take values, and
which values they take. Reading the arguments stops at the first that does not fit. An option that
waits for values is settled when the next option begins or the arguments end; only then are its
values looked at. Options that are not given may take their value from a variable.
-/

namespace SchemaDialogue

/-- Why arguments do not make a command, or what they ask for instead of one. -/
inductive UsageError where
  | helpAsked
  | versionAsked
  | nothingGiven
  | noSuchCommand
  | unknownArgument
  | missingArgument
  | repeatedArgument
  /-- A value that the option does not take, or no value. -/
  | invalidValue
  /-- A value that cannot be read. -/
  | unreadableValue
  /-- A value for an option that takes none. -/
  | surplusValue
deriving DecidableEq

/-- The exit code: asking for help or the version is no failure. -/
def UsageError.exitCode : UsageError → Nat
  | helpAsked => 0
  | versionAsked => 0
  | _ => 2

/-- How many values an option takes. -/
inductive OptionForm where
  | flag
  | single
  | many
deriving DecidableEq

structure OptionSpec where
  name : String
  short : Option Char := none
  form : OptionForm := .single
  required : Bool := false
  /-- The variable that gives the value when the option is not given. -/
  fallback : Option String := none
  /-- What is wrong with a value. -/
  refusal : String → Option UsageError := fun _ => none

/-- The values of the options that were given. -/
abbrev Given := List (String × List String)

/-- An argument by its look. -/
inductive Argument where
  /-- Two hyphens. -/
  | endOfOptions
  | long (name : String) (value : Option String)
  | shorts (letters : List Char)
  | value (text : String)

namespace Argument

/-- The look of an argument. A single hyphen is a value. -/
def ofText (text : String) : Argument :=
  match text.toList with
  | ['-', '-'] => endOfOptions
  | '-' :: '-' :: rest =>
    let name := String.ofList (rest.takeWhile (· ≠ '='))
    match rest.dropWhile (· ≠ '=') with
    | _ :: attached => long name (some (String.ofList attached))
    | [] => long name none
  | '-' :: c :: rest => shorts (c :: rest)
  | _ => value text

end Argument

namespace Usage

/-- The options so far, and the option that waits for values. -/
structure State where
  given : Given := []
  waiting : Option (OptionSpec × List String) := none

/-- The number of values fits the option. -/
def countFits (form : OptionForm) (values : List String) : Bool :=
  match form with
  | .flag => values.isEmpty
  | .single => values.length == 1
  | .many => !values.isEmpty

/-- Give an option its values. -/
def give (spec : OptionSpec) (values : List String) (given : Given) : Except UsageError Given :=
  if !countFits spec.form values then .error .invalidValue
  else
    match given.lookup spec.name with
    | some earlier =>
      if spec.form = .many then
        match values.findSome? spec.refusal with
        | some e => .error e
        | none =>
          .ok (given.map fun p => if p.1 = spec.name then (p.1, earlier ++ values) else p)
      else .error .repeatedArgument
    | none =>
      match values.findSome? spec.refusal with
      | some e => .error e
      | none => .ok (given ++ [(spec.name, values)])

/-- Settle the option that waits for values. -/
def settle (s : State) : Except UsageError Given :=
  match s.waiting with
  | none => .ok s.given
  | some (spec, values) => give spec values s.given

/-- Begin an option, with the value attached to it if there is one. -/
def begin (spec : OptionSpec) (attached : Option String) (s : State) :
    Except UsageError State := do
  let given ← settle s
  match spec.form, attached with
  | .flag, _ => return { given := ← give spec [] given }
  | _, some v => return { given := ← give spec [v] given }
  | _, none => pure { given, waiting := some (spec, []) }

/-- Read a run of short options. The rest of the run is the value of the first that takes one. -/
def shorts (specs : List OptionSpec) : List Char → State → Except UsageError State
  | [], s => .ok s
  | c :: rest, s =>
    match specs.find? (·.short = some c) with
    | none =>
      -- Help is only given when the option that waits is in order.
      if c = 'h' then do
        let _ ← settle s
        .error .helpAsked
      else .error .unknownArgument
    | some spec =>
      if spec.form = .flag then do shorts specs rest (← begin spec none s)
      else
        match rest with
        | [] => begin spec none s
        | '=' :: v => begin spec (some (String.ofList v)) s
        | v => begin spec (some (String.ofList v)) s

def long (specs : List OptionSpec) (name : String) (attached : Option String) (s : State) :
    Except UsageError State :=
  match specs.find? (·.name = name) with
  | some spec =>
    if spec.form = .flag ∧ attached.isSome then .error .surplusValue else begin spec attached s
  | none =>
    if name = "help" then
      if attached.isSome then .error .surplusValue
      else do
        let _ ← settle s
        .error .helpAsked
    else .error .unknownArgument

/-- Read a value. It belongs to the option that waits, unless that has all it takes. -/
def value (text : String) (s : State) : Except UsageError State :=
  match s.waiting with
  | some (spec, values) =>
    if spec.form = .many ∨ values.isEmpty then
      .ok { s with waiting := some (spec, values ++ [text]) }
    else .error .unknownArgument
  | none => .error .unknownArgument

def options (specs : List OptionSpec) : List String → State → Except UsageError Given
  | [], s => settle s
  | text :: rest, s =>
    match Argument.ofText text with
    | .endOfOptions => if rest.isEmpty then settle s else .error .unknownArgument
    | .long name attached => do options specs rest (← long specs name attached s)
    | .shorts letters => do options specs rest (← shorts specs letters s)
    | .value text => do options specs rest (← value text s)

/-- Take the options that are not given from variables. -/
def fromVariables (environment : List (String × String)) :
    List OptionSpec → Given → Except UsageError Given
  | [], given => .ok given
  | spec :: rest, given =>
    match given.lookup spec.name, spec.fallback.bind (List.lookup · environment) with
    | none, some v => do fromVariables environment rest (← give spec [v] given)
    | _, _ => fromVariables environment rest given

/-- The options of a command. -/
def read (specs : List OptionSpec) (environment : List (String × String))
    (arguments : List String) : Except UsageError Given := do
  let given ← fromVariables environment specs (← options specs arguments {})
  if specs.all fun spec => !spec.required || (given.lookup spec.name).isSome then .ok given
  else .error .missingArgument

end Usage

namespace Given

/-- The first value of an option. -/
def text? (g : Given) (name : String) : Option String := (g.lookup name).bind List.head?

def texts (g : Given) (name : String) : List String := (g.lookup name).getD []

def has (g : Given) (name : String) : Bool := (g.lookup name).isSome

end Given

end SchemaDialogue
