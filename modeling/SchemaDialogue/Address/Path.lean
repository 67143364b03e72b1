import SchemaDialogue.Address.Escape

/-!
# Paths of addresses

The segments of a path stand between its slashes. A segment of one dot, which may be escaped, says
nothing, and one of two dots takes back the segment before it, unless that names a drive: a letter
and a colon or bar. In the path of a file, slashes in front of the first do not count.
-/

namespace SchemaDialogue.AddressPath

abbrev Segment := List Char

/-- The segments of a text between the characters that part them; at least one. -/
def split (parts : Char → Bool) : List Char → List Segment
  | [] => [[]]
  | c :: rest =>
    match split parts rest with
    | [] => [[c]]
    | segment :: segments =>
      if parts c then [] :: segment :: segments else (c :: segment) :: segments

/-- The ways to write a dot. -/
def dots : List String := [".", "%2e", "%2E"]

def isDot (s : Segment) : Bool := dots.any fun dot => s = dot.toList

def isTwoDots (s : Segment) : Bool :=
  dots.any fun first => dots.any fun second => s = first.toList ++ second.toList

/-- Does this name a drive? -/
def isDrive : Segment → Bool
  | [letter, mark] => letter.isAlpha && (mark = ':' || mark = '|')
  | _ => false

/-- The usual form of the name of a drive; any other segment is kept. -/
def driveForm (s : Segment) : Segment := if isDrive s then s.take 1 ++ [':'] else s

/-- Take back the last segment, unless it names a drive. -/
def shorten (kept : List Segment) : List Segment :=
  if kept.getLast?.any isDrive then kept else kept.dropLast

/-- Follow segments after those that have been kept. At the end, dots leave an empty segment. -/
def resolve (ofFile : Bool) (kept : List Segment) : List Segment → List Segment
  | [] => kept
  | s :: rest =>
    if isTwoDots s then
      resolve ofFile (shorten kept ++ if rest.isEmpty then [[]] else []) rest
    else if isDot s then resolve ofFile (kept ++ if rest.isEmpty then [[]] else []) rest
    -- Only the first segment of a file can name a drive.
    else resolve ofFile (kept ++ [if ofFile && kept.isEmpty then driveForm s else s]) rest

/-- The segments of a path, of whose slashes the first is left out. -/
def segments (ofFile : Bool) (parts : Char → Bool) (text : List Char) : List Segment :=
  resolve ofFile [] ((split parts text).map (Escape.text Escape.inPath))

/-- The path of segments. -/
def join (segments : List Segment) : List Char := segments.flatMap ('/' :: ·)

/-- The path of a file of segments. -/
def joinFile (segments : List Segment) : List Char := '/' :: (join segments).dropWhile (· = '/')

end SchemaDialogue.AddressPath
