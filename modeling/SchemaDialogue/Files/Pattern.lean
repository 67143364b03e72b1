/-!
# Patterns of file names

In a pattern a star stands for any characters, a question mark for one, and brackets for one of a
set, or with an exclamation mark for one outside of it. Two stars stand for any directories and have
to be a whole part of the path.
-/

namespace SchemaDialogue

/-- Why a text is no pattern. -/
inductive PatternFault where
  | tooManyStars
  | starsNotAlone
  | brokenSet
deriving DecidableEq

/-- A fault, and the number of the character at which it was noticed. -/
structure PatternError where
  position : Nat
  fault : PatternFault
deriving DecidableEq

def PatternFault.message : PatternFault → String
  | tooManyStars => "wildcards are either regular `*` or recursive `**`"
  | starsNotAlone => "recursive wildcards must form a single path component"
  | brokenSet => "invalid range pattern"

def PatternError.message (e : PatternError) : String :=
  "Pattern syntax error near position " ++ toString e.position ++ ": " ++ e.fault.message

/-- The characters from one to another. -/
structure CharRange where
  first : Char
  last : Char
deriving DecidableEq

/-- A part of a pattern. -/
inductive PatternToken where
  | char (c : Char)
  | anyChar
  | anySequence
  /-- Any directories. -/
  | anyDirectories
  | oneOf (ranges : List CharRange)
  | noneOf (ranges : List CharRange)
deriving DecidableEq

/-- A pattern for one part of a path. -/
abbrev Pattern := List PatternToken

namespace Pattern

/-- The ranges in a set. A character between two others and a hyphen is a range of its own. -/
def ranges : List Char → List CharRange
  | first :: '-' :: last :: rest => ⟨first, last⟩ :: ranges rest
  | c :: rest => ⟨c, c⟩ :: ranges rest
  | [] => []

/-- A set and what follows it. The first character of a set is never its end. -/
def set? (negated : Bool) : List Char → Option (PatternToken × List Char)
  | [] => none
  | first :: rest =>
    match rest.dropWhile (· ≠ ']') with
    | [] => none
    | _ :: after =>
      let members := ranges (first :: rest.takeWhile (· ≠ ']'))
      some (if negated then .noneOf members else .oneOf members, after)

/-- What follows an opening bracket, up to and with the closing one. -/
def bracket? : List Char → Option (PatternToken × List Char)
  | '!' :: rest => set? true rest
  | rest => set? false rest

theorem length_dropWhile_le (p : Char → Bool) (text : List Char) :
    (text.dropWhile p).length ≤ text.length :=
  (List.dropWhile_suffix p).length_le

theorem length_lt_of_set? {negated : Bool} {text after : List Char} {token : PatternToken}
    (h : set? negated text = some (token, after)) : after.length < text.length := by
  unfold set? at h
  split at h
  · cases h
  · next first rest =>
    have bound := length_dropWhile_le (· ≠ ']') rest
    split at h
    · cases h
    · next heq =>
      rw [heq] at bound
      cases h
      simp only [List.length_cons] at *
      omega

theorem length_lt_of_bracket? {text after : List Char} {token : PatternToken}
    (h : bracket? text = some (token, after)) : after.length < text.length := by
  unfold bracket? at h
  split at h
  · have := length_lt_of_set? h
    simp only [List.length_cons]
    omega
  · exact length_lt_of_set? h

/-- The tokens of a pattern from a position on, after a given character. -/
def tokens (position : Nat) (previous : Option Char) (text : List Char) :
    Except PatternError (List PatternToken) :=
  match text with
  | [] => .ok []
  | '?' :: rest => do
    return .anyChar :: (← tokens (position + 1) (some '?') rest)
  | '*' :: '*' :: '*' :: _ => .error ⟨position + 2, .tooManyStars⟩
  | '*' :: '*' :: rest =>
    -- Two stars mean directories only as a whole part of a path.
    if previous = none ∨ previous = some '/' then
      match rest with
      | [] => .ok [.anyDirectories]
      | '/' :: rest => do
        return .anyDirectories :: (← tokens (position + 3) (some '/') rest)
      | _ => .error ⟨position + 2, .starsNotAlone⟩
    else .error ⟨position - 1, .starsNotAlone⟩
  | '*' :: rest => do
    return .anySequence :: (← tokens (position + 1) (some '*') rest)
  | '[' :: rest =>
    match _ : bracket? rest with
    | none => .error ⟨position, .brokenSet⟩
    | some (token, after) => do
      return token :: (← tokens (position + 1 + (rest.length - after.length)) (some ']') after)
  | c :: rest => do
    return .char c :: (← tokens (position + 1) (some c) rest)
termination_by text.length
decreasing_by
  all_goals simp only [List.length_cons]
  all_goals first
    | omega
    | have := length_lt_of_bracket? ‹_›
      omega

def parse (text : String) : Except PatternError (List PatternToken) := tokens 0 none text.toList

/-- The patterns of the parts of a path, when both the whole and every part is a pattern. -/
def parseParts (whole : String) (parts : List String) : Except PatternError (List Pattern) := do
  let _ ← parse whole
  parts.mapM parse

/-- Does a range hold a character? -/
def inRanges (ranges : List CharRange) (c : Char) : Bool :=
  ranges.any fun r => r.first ≤ c && c ≤ r.last

def matchesName : Pattern → List Char → Bool
  | [], name => name.isEmpty
  | .anySequence :: rest, [] => matchesName rest []
  | .anySequence :: rest, c :: name =>
    matchesName rest (c :: name) || matchesName (.anySequence :: rest) name
  | .anyDirectories :: rest, name => matchesName rest name
  | _ :: _, [] => false
  | .char d :: rest, c :: name => d = c && matchesName rest name
  | .anyChar :: rest, _ :: name => matchesName rest name
  | .oneOf set :: rest, c :: name => inRanges set c && matchesName rest name
  | .noneOf set :: rest, c :: name => !inRanges set c && matchesName rest name
termination_by p name => (p.length, name.length)

/-- Does the pattern match any directories? -/
def isRecursive (p : Pattern) : Bool := p.contains .anyDirectories

/-- The only name that a pattern without wildcards matches. -/
def literal? (p : Pattern) : Option String := (p.mapM char?).map String.ofList
where
  /-- The character of a token that stands for itself. -/
  char? : PatternToken → Option Char
    | .char c => some c
    | _ => none

end Pattern

end SchemaDialogue
