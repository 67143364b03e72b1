import SchemaDialogue.Text.Digits

/-!
# Patterns of field values

A log filter may ask for the value of a field, as a number or as a pattern. A pattern is made of
characters, sets in brackets, groups in parentheses, alternatives and repetitions; a backslash
gives a character another meaning. Whether a text is a pattern is found character by character.
-/

namespace SchemaDialogue.FieldPattern

/-- What the next character belongs to. -/
inductive Reading where
  /-- An item, or a repetition of the one before if it can be repeated. -/
  | item (repeatable : Bool)
  /-- What follows a backslash, inside so many sets. -/
  | escape (sets : Nat)
  /-- So many hexadecimal digits of a character. -/
  | hexDigits (left : Nat) (sets : Nat)
  /-- The letter of a category of characters. -/
  | category (sets : Nat)
  /-- The first character of a group. -/
  | group
  /-- What follows a question mark at the start of a group. -/
  | option
  /-- The angle bracket before the name of a group. -/
  | nameStart
  /-- The name of a group, which may not be empty. -/
  | groupName (isEmpty : Bool)
  /-- Options of a group: those seen so far, and whether there must be another. -/
  | flags (seen : List Char) (more : Bool)
  /-- The first character of the innermost of so many sets. -/
  | set (sets : Nat)
  /-- The members of the innermost of so many sets: whether there are none yet, and the last
  character and a hyphen behind it if a range may follow. -/
  | members (sets : Nat) (isEmpty : Bool) (last : Option Char) (hyphen : Bool)
deriving DecidableEq

/-- What has been read: the number of groups that are open, and what the next character is. -/
structure State where
  openGroups : Nat := 0
  reading : Reading := .item false

/-- The reading after an item that is complete, inside so many sets. -/
def afterItem (sets : Nat) (meant : Option Char) : Reading :=
  if sets = 0 then .item true else .members sets false meant false

/-- The letters of options of a group. -/
def flagLetters : List Char := "imsUuxR".toList

/-- The letters of general categories of characters. -/
def categoryLetters : List Char := "LMNPSZC".toList

/-- The letters that stand for classes of characters behind a backslash. -/
def classLetters : List Char := "dDsSwW".toList

/-- The letters that stand for single characters behind a backslash. -/
def characterLetters : List Char := "aftnrv".toList

/-- The letters that stand for the start and the end behind a backslash. -/
def anchorLetters : List Char := "Az".toList

/-- Does a backslash leave this character as it is? -/
def isPlainEscape (c : Char) : Bool := c.toNat < 0x80 && !c.isAlphanum && c ≠ '<' && c ≠ '>'

/-- Read what follows a backslash. -/
def stepEscape (sets : Nat) (c : Char) : Option Reading :=
  if c = 'x' then some (.hexDigits 2 sets)
  else if c = 'u' then some (.hexDigits 4 sets)
  else if c = 'U' then some (.hexDigits 8 sets)
  else if c = 'p' || c = 'P' then some (.category sets)
  else if classLetters.contains c then some (afterItem sets none)
  else if characterLetters.contains c || isPlainEscape c then some (afterItem sets (some c))
  else if sets = 0 && anchorLetters.contains c then some (.item true)
  else none

/-- Read a member of a set. -/
def stepMember (sets : Nat) (isEmpty : Bool) (last : Option Char) (hyphen : Bool) (c : Char) :
    Option Reading :=
  match c with
  | ']' =>
    -- At the front of a set, a closing bracket is a member.
    if isEmpty then some (.members sets false (some c) false)
    else if sets = 1 then some (.item true)
    else some (.members (sets - 1) false none false)
  | '[' => some (.set (sets + 1))
  | '\\' => some (.escape sets)
  | '-' => some (.members sets false (if hyphen then none else last) (last.isSome && !hyphen))
  | c =>
    if hyphen then
      if last.all (· ≤ c) then some (.members sets false none false) else none
    else some (.members sets false (some c) false)

/-- Read one more character of a pattern. -/
def step (s : State) (c : Char) : Option State :=
  let goOn := fun reading => some { s with reading }
  match s.reading with
  | .escape sets => (stepEscape sets c).bind goOn
  | .hexDigits left sets =>
    if !(c.isDigit || ('a' ≤ c.toLower && c.toLower ≤ 'f')) then none
    else if left ≤ 1 then goOn (afterItem sets none)
    else goOn (.hexDigits (left - 1) sets)
  | .category sets => if categoryLetters.contains c then goOn (afterItem sets none) else none
  | .option =>
    if c = ':' then some ⟨s.openGroups + 1, .item false⟩
    else if c = 'P' then goOn .nameStart
    else if c = '<' then goOn (.groupName true)
    else if c = '-' then goOn (.flags [c] true)
    else if flagLetters.contains c then goOn (.flags [c] false)
    else none
  | .nameStart => if c = '<' then goOn (.groupName true) else none
  | .groupName isEmpty =>
    if c = '>' then if isEmpty then none else some ⟨s.openGroups + 1, .item false⟩
    else if c.isAlpha || c = '_' || (!isEmpty && (c.isDigit || "[].".toList.contains c)) then
      goOn (.groupName false)
    else none
  | .flags seen more =>
    if c = ')' then if more then none else goOn (.item false)
    else if c = ':' then if more then none else some ⟨s.openGroups + 1, .item false⟩
    else if seen.contains c then none
    else if c = '-' then goOn (.flags (c :: seen) true)
    else if flagLetters.contains c then goOn (.flags (c :: seen) false)
    else none
  | .set sets =>
    (if c = '^' then some (.members sets true none false)
      else stepMember sets true none false c).bind goOn
  | .members sets isEmpty last hyphen => (stepMember sets isEmpty last hyphen c).bind goOn
  | .group => if c = '?' then goOn .option else stepItem ⟨s.openGroups + 1, .item false⟩ false c
  | .item repeatable => stepItem s repeatable c
where
  /-- Read the first character of an item, or a repetition. -/
  stepItem (s : State) (repeatable : Bool) (c : Char) : Option State :=
    match c with
    | '\\' => some { s with reading := .escape 0 }
    | '[' => some { s with reading := .set 1 }
    | '(' => some { s with reading := .group }
    | ')' => if s.openGroups = 0 then none else some ⟨s.openGroups - 1, .item true⟩
    | '|' => some { s with reading := .item false }
    | '*' | '+' | '?' => if repeatable then some s else none
    | '{' => none
    | _ => some { s with reading := .item true }

/-- Is this the whole of a pattern? -/
def isComplete (s : State) : Bool :=
  s.openGroups = 0 &&
    match s.reading with
    | .item _ => true
    | _ => false

/-- Is the text a pattern? -/
def isPattern (text : List Char) : Bool := (text.foldlM step {}).any isComplete

/-! ## Numbers -/

/-- The names of numbers that have no digits. -/
def numberNames : List String := ["inf", "infinity", "nan"]

/-- Are these digits, behind an optional sign? -/
def isExponent (text : List Char) : Bool :=
  let digits := match text with
    | '+' :: rest | '-' :: rest => rest
    | digits => digits
  !digits.isEmpty && digits.all Char.isDigit

/-- Is this a number without a sign? -/
def isNumber (text : List Char) : Bool :=
  let whole := text.takeWhile Char.isDigit
  let rest := text.dropWhile Char.isDigit
  let fraction := if rest.head? = some '.' then (rest.drop 1).takeWhile Char.isDigit else []
  let rest := if rest.head? = some '.' then (rest.drop 1).dropWhile Char.isDigit else rest
  numberNames.contains (String.ofList text).toLower ||
    (!(whole ++ fraction).isEmpty &&
      match rest with
      | [] => true
      | e :: exponent => (e = 'e' || e = 'E') && isExponent exponent)

/-- Can a field have a value that is described by this text? A plus sign in front is only part of a
number. -/
def describesValue (text : List Char) : Bool :=
  isPattern text || (text.head? = some '+' && isNumber (text.drop 1))

end SchemaDialogue.FieldPattern
