/-!
# File systems

What the command line asks of a file system, in any monad, so that a tree of files in memory can
take the place of the disk. Files are named by paths, whose parts stand between slashes.
-/

namespace SchemaDialogue

/-- Why a file or directory could not be used. -/
inductive FileError where
  | notFound
  | alreadyExists
  | notDirectory
  | isDirectory
  /-- A name or the whole path is longer than any can be. -/
  | nameTooLong
  /-- The path holds the character that ends paths. -/
  | zeroInPath
  /-- The content is not a text. -/
  | notText
  | other (message : String)
deriving DecidableEq

def FileError.message : FileError → String
  | notFound => "No such file or directory (os error 2)"
  | alreadyExists => "File exists (os error 17)"
  | notDirectory => "Not a directory (os error 20)"
  | isDirectory => "Is a directory (os error 21)"
  | nameTooLong => "File name too long (os error 36)"
  | zeroInPath => "file name contained an unexpected NUL byte"
  | notText => "stream did not contain valid UTF-8"
  | other text => text

/-- What a path may lead to. -/
inductive FileKind where
  | file
  | directory
deriving DecidableEq

/-- The operations of a file system. -/
structure FileSystem (m : Type → Type) where
  /-- The bytes of a file. -/
  read : String → m (Except FileError ByteArray)
  /-- What is at a path, if anything is. -/
  kind : String → m (Option FileKind)
  /-- The names in a directory. -/
  names : String → m (List String)
  /-- Make a directory in an existing one. -/
  makeDirectory : String → m (Except FileError Unit)
  /-- Write a file in an existing directory. -/
  write : String → String → m (Except FileError Unit)

/-- The most bytes of a name in a directory. -/
def longestName : Nat := 255

/-- The most bytes of a path. -/
def longestPath : Nat := 4095

/-- Refuses the paths that no file system can look up. -/
def checkPath (path : String) : Except FileError Unit :=
  if path.contains '\x00' then .error .zeroInPath
  else if path.utf8ByteSize > longestPath then .error .nameTooLong
  else if path = "" then .error .notFound
  else .ok ()

/-- The parts of a path, without those that do not change where it leads. -/
structure PathParts where
  absolute : Bool
  parts : List String
deriving DecidableEq

namespace PathParts

/-- The parts of a path. A leading dot is kept. -/
def ofText (path : String) : PathParts :=
  let pieces := path.splitOn "/"
  let absolute := path.startsWith "/"
  match pieces with
  | "." :: rest => ⟨false, "." :: rest.filter fun p => p ≠ "" ∧ p ≠ "."⟩
  | pieces => ⟨absolute, pieces.filter fun p => p ≠ "" ∧ p ≠ "."⟩

/-- The path of these parts. -/
def text (p : PathParts) : String :=
  (if p.absolute then "/" else "") ++ String.intercalate "/" p.parts

/-- The path of the directory around. -/
def parent? (p : PathParts) : Option PathParts :=
  if p.parts.isEmpty then none else some { p with parts := p.parts.dropLast }

theorem length_lt_of_parent? {p q : PathParts} (h : p.parent? = some q) :
    q.parts.length < p.parts.length := by
  unfold parent? at h
  split at h
  · cases h
  · next nonempty =>
    cases h
    have : 0 < p.parts.length := by
      cases hp : p.parts with
      | nil => simp [hp] at nonempty
      | cons => simp
    simp only [List.length_dropLast]
    omega

end PathParts

namespace FileSystem

variable {m : Type → Type} [Monad m]

def readText (fs : FileSystem m) (path : String) : m (Except FileError String) := do
  match ← fs.read path with
  | .error e => pure (.error e)
  | .ok bytes =>
    match String.fromUTF8? bytes with
    | some text => pure (.ok text)
    | none => pure (.error .notText)

/-- Make a directory; one that is there already will do. -/
def ensureDirectory (fs : FileSystem m) (path : PathParts) : m (Except FileError Unit) := do
  match ← fs.makeDirectory path.text with
  | .ok () => pure (.ok ())
  | .error e =>
    if (← fs.kind path.text) = some .directory then pure (.ok ()) else pure (.error e)

/-- Make a directory and those around it. -/
def makeDirectories (fs : FileSystem m) (path : PathParts) : m (Except FileError Unit) := do
  if path.text = "" then pure (.ok ())
  else
    match ← fs.ensureDirectory path with
    -- The directory around is missing: it is made first.
    | .error .notFound =>
      match _ : path.parent? with
      | none => pure (.error (.other "failed to create whole tree"))
      | some parent =>
        match ← makeDirectories fs parent with
        | .error e => pure (.error e)
        | .ok () => fs.ensureDirectory path
    | result => pure result
termination_by path.parts.length
decreasing_by exact PathParts.length_lt_of_parent? ‹_›

end FileSystem

end SchemaDialogue
