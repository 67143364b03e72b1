import SchemaDialogue.Files.System

/-!
# Trees of files

A file system in memory: files with their texts at locations, and directories that have been made.
Whatever leads to a file is a directory. A location is the list of the names that lead there from
the working directory. Two dots at its front lead out of the working directory, and a slash at its
front starts at the root; of these places it is only known that they are directories, and perhaps
the name of the working directory in the one around it.
-/

namespace SchemaDialogue

/-- Files, and directories that may be empty, at their locations. -/
structure FileTree where
  files : List (List String × String) := []
  made : List (List String) := []
  /-- Files that any text can be written to, and that stay empty. -/
  sinks : List (List String) := []
  /-- The name of the working directory. -/
  name : Option String := none

namespace FileTree

def root : List String := ["/"]

/-- The working directory and those around it. -/
def surrounds (location : List String) : Bool :=
  location = root || location.all (· = "..")

/-- The text of the file at a location. -/
def textAt (tree : FileTree) (location : List String) : Option String :=
  if tree.sinks.contains location then some "" else tree.files.lookup location

/-- What is at a location. -/
def kindAt (tree : FileTree) (location : List String) : Option FileKind :=
  if (tree.textAt location).isSome then some .file
  else if surrounds location || tree.files.any (location.isPrefixOf ·.1) ||
      (tree.sinks ++ tree.made).any (location.isPrefixOf ·) then some .directory
  else none

/-- The location of the directory around. -/
def around (location : List String) : List String :=
  if location = root then root
  else if surrounds location then location ++ [".."]
  else location.dropLast

/-- The directory around the working directory. -/
def outside : List String := [".."]

/-- Where a part of a path leads from a directory. -/
def step (tree : FileTree) (directory : List String) (part : String) : List String :=
  if part = "" ∨ part = "." then directory
  else if part = ".." then around directory
  -- From outside, its name leads back to the working directory.
  else if directory = outside ∧ tree.name = some part then []
  else directory ++ [part]

/-- Where a part of a path leads from a location, which has to be a directory. -/
def enter (tree : FileTree) (location : List String) (part : String) :
    Except FileError (List String) :=
  match tree.kindAt location with
  | none => .error .notFound
  | some .file => .error .notDirectory
  | some .directory =>
    if part.utf8ByteSize > longestName then .error .nameTooLong else .ok (tree.step location part)

/-- Where following a path starts. -/
def start (path : String) : List String := if path.startsWith "/" then root else []

/-- The location that a path leads to, and what is there. -/
def find (tree : FileTree) (path : String) : Except FileError (List String × FileKind) := do
  checkPath path
  let location ← (path.splitOn "/").foldlM tree.enter (start path)
  match tree.kindAt location with
  | some kind => .ok (location, kind)
  | none => .error .notFound

/-- The location that a path names in a directory that is there. Slashes at its end do not count,
and it may be that nothing has that name. -/
def findNew (tree : FileTree) (path : String) : Except FileError (List String) := do
  checkPath path
  (((path.splitOn "/").reverse.dropWhile (· = "")).reverse).foldlM tree.enter (start path)

def read (tree : FileTree) (path : String) : Except FileError String := do
  let (location, _) ← tree.find path
  match tree.textAt location with
  | some text => .ok text
  | none => .error .isDirectory

def names (tree : FileTree) (path : String) : List String :=
  match tree.find path with
  | .ok (location, .directory) =>
    let below := (tree.files.map (·.1) ++ tree.sinks ++ tree.made).filterMap fun other =>
      if location.isPrefixOf other then other[location.length]? else none
    let own := if location = outside then tree.name.toList else []
    (own ++ below.filter fun name => name ≠ ".." ∧ name ≠ "/").eraseDups
  | _ => []

/-- Put a file at a location. -/
def put (tree : FileTree) (location : List String) (text : String) : FileTree :=
  if tree.sinks.contains location then tree
  else { tree with files := tree.files.filter (·.1 ≠ location) ++ [(location, text)] }

def makeDirectory (tree : FileTree) (path : String) : Except FileError FileTree := do
  let location ← tree.findNew path
  match tree.find path with
  | .ok _ => .error .alreadyExists
  | .error _ => .ok { tree with made := tree.made ++ [location] }

/-- A path that names no file: it ends with a slash or with dots that stand for a directory. -/
def namesDirectory (path : String) : Bool :=
  ["", ".", ".."].contains ((path.splitOn "/").getLast?.getD "")

def write (tree : FileTree) (path text : String) : Except FileError FileTree := do
  let location ← tree.findNew path
  if namesDirectory path ∨ tree.kindAt location = some .directory then .error .isDirectory
  else .ok (tree.put location text)

/-- Run an operation that changes the tree. -/
def update (operation : FileTree → Except FileError FileTree) :
    StateM FileTree (Except FileError Unit) := fun tree =>
  match operation tree with
  | .ok changed => (.ok (), changed)
  | .error e => (.error e, tree)

def system : FileSystem (StateM FileTree) where
  read path := return ((← get).read path).map String.toUTF8
  kind path := return (((← get).find path).toOption).map (·.2)
  names path := return (← get).names path
  makeDirectory path := update (·.makeDirectory path)
  write path text := update (·.write path text)

end FileTree

end SchemaDialogue
