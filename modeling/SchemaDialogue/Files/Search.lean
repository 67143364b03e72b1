import SchemaDialogue.Files.Pattern
import SchemaDialogue.Files.System
import SchemaDialogue.Measure

/-!
# Searching files by pattern

A pattern for a path is followed part by part. A part without wildcards is looked up, without
listing the directory; any other part is held against the names in the directory, in their order.
Two stars are followed to any depth: first what a directory itself matches, then what is in it.

`depth` bounds how far two stars descend.
-/

namespace SchemaDialogue

/-- Something that was found: its path and whether it is a directory. -/
structure Found where
  path : String
  isDirectory : Bool

namespace Found

/-- The path of a name in a directory. -/
def join (directory name : String) : String :=
  if directory.endsWith "/" then directory ++ name else directory ++ "/" ++ name

/-- The path of an entry of a directory; in the working directory it is the name alone. -/
def entry (directory name : String) : String :=
  if PathParts.ofText directory = ⟨false, ["."]⟩ then name else join directory name

end Found

namespace Pattern

/-- The patterns from the last of several directory patterns in a row on. -/
def lastRecursive : List Pattern → List Pattern
  | p :: q :: rest => if q.isRecursive then lastRecursive (q :: rest) else p :: q :: rest
  | patterns => patterns

theorem length_lastRecursive_le (patterns : List Pattern) :
    (lastRecursive patterns).length ≤ patterns.length := by
  fun_induction lastRecursive patterns with
  | case1 p q rest _ ih => simp only [List.length_cons] at *; omega
  | case2 => simp
  | case3 => simp

/-- The names that mean the directory itself and the one around it. -/
def specialNames : List String := ["..", "."]

end Pattern

/-- A search: the file system, and whether only directories are wanted. -/
structure Search (m : Type → Type) where
  files : FileSystem m
  onlyDirectories : Bool

namespace Search

variable {m : Type → Type} [Monad m]

/-- What is at a path. -/
def found (s : Search m) (path : String) : m Found := do
  return ⟨path, (← s.files.kind path) = some .directory⟩

/-- A path that matches the whole pattern, when it is of the kind that is wanted. -/
def accept (s : Search m) (place : Found) : List String :=
  if s.onlyDirectories && !place.isDirectory then [] else [place.path]

mutual

/-- The paths below a directory that match the patterns. -/
def below (s : Search m) (depth : Nat) (patterns : List Pattern) (directory : Found) :
    m (List String) := do
  match patterns with
  | [] => pure (s.accept directory)
  | p :: rest =>
    match p.literal? with
    | some name =>
      -- A name without wildcards is looked up instead of being searched for.
      let next ← s.found (Found.entry directory.path name)
      let known := (← s.files.kind next.path).isSome
      if (if Pattern.specialNames.contains name then directory.isDirectory else known) then
        below s depth rest next
      else pure []
    | none =>
      if directory.isDirectory then
        let special ←
          -- The special names are only meant by patterns that start with a dot.
          if p.head? = some (.char '.') then
            (Pattern.specialNames.filter fun n => p.matchesName n.toList).mapM fun name => do
              let next ← s.found (Found.join directory.path name)
              below s depth rest next
          else pure []
        let names := (← s.files.names directory.path).mergeSort fun a b => decide (a ≤ b)
        let inside ← match depth with
          | 0 => pure []
          | depth + 1 => names.mapM fun name => do
            let next ← s.found (Found.entry directory.path name)
            visit s depth (p :: rest) name next
        pure (special.flatten ++ inside.flatten)
      else pure []
termination_by (patterns.length, depth, 0)

/-- The paths at and below an entry of a directory that match the patterns. -/
def visit (s : Search m) (depth : Nat) (patterns : List Pattern) (name : String) (place : Found) :
    m (List String) := do
  match patterns with
  | [] => pure []
  | p :: rest =>
    if p.isRecursive then
      match _ : Pattern.lastRecursive (p :: rest) with
      | [] => pure []
      | last :: own =>
        -- The directories that the first pattern stands for may be none at all.
        let itself ← if own.isEmpty then pure [] else matching s depth own name place
        if place.isDirectory then
          let inside ← below s depth (last :: own) place
          pure ((if own.isEmpty then [place.path] else itself) ++ inside)
        else pure itself
    else matching s depth (p :: rest) name place
termination_by (patterns.length, depth, 2)
decreasing_by
  · have bound := Pattern.length_lastRecursive_le (p :: rest)
    rw [‹Pattern.lastRecursive (p :: rest) = last :: own›] at bound
    exact lex_of_le bound (.right _ (by decide))
  · have bound := Pattern.length_lastRecursive_le (p :: rest)
    rw [‹Pattern.lastRecursive (p :: rest) = last :: own›] at bound
    exact .left _ _ (Nat.lt_of_lt_of_le (Nat.lt_succ_self _) bound)
  · exact .right _ (.right _ (by decide))

/-- The paths at and below an entry whose name is held against the first pattern. -/
def matching (s : Search m) (depth : Nat) (patterns : List Pattern) (name : String)
    (place : Found) : m (List String) := do
  match patterns with
  | [] => pure []
  | p :: rest =>
    if p.matchesName name.toList then
      if rest.isEmpty then pure (s.accept place) else below s depth rest place
    else pure []
termination_by (patterns.length, depth, 1)

end

/-- No path has more parts than this. -/
def greatestDepth : Nat := 4096

/-- The parts of a path between slashes; a slash at the end adds none. -/
def splitPath (path : String) : List String :=
  let parts := path.splitOn "/"
  if parts.getLast? = some "" then parts.dropLast else parts

/-- The paths that match a pattern, or why it is none. -/
def paths (files : FileSystem m) (pattern : String) : m (Except PatternError (List String)) := do
  let absolute := pattern.startsWith "/"
  let rest := if absolute then String.ofList (pattern.toList.drop 1) else pattern
  match Pattern.parseParts pattern (splitPath rest) with
  | .error e => pure (.error e)
  | .ok patterns =>
    let search : Search m := ⟨files, pattern.endsWith "/"⟩
    let start ← search.found (if absolute then "/" else ".")
    if patterns.isEmpty then pure (.ok [])
    else return .ok (← search.below greatestDepth patterns start)

end Search

end SchemaDialogue
