import SchemaDialogue.Address.Basic
import SchemaDialogue.Address.Path

/-!
# Reading addresses

The schemes that are well known fix what the rest of an address looks like: there is a host, either
slash parts a path, and the path is never empty. An address of a file may leave out its host. Of any
other scheme it is only known that two slashes start an authority and one slash a path.
-/

namespace SchemaDialogue

/-- What is known of a scheme. -/
inductive SchemeKind where
  /-- Hosts are looked up in the network; this is the socket when none is given. -/
  | network (defaultSocket : Nat)
  | file
  | unknown
deriving DecidableEq

namespace SchemeKind

/-- The default sockets of the schemes that look up hosts. -/
def defaultSockets : List (String × Nat) :=
  [("http", 80), ("https", 443), ("ws", 80), ("wss", 443), ("ftp", 21)]

/-- The kind of a scheme. -/
def ofScheme (scheme : String) : SchemeKind :=
  if scheme = "file" then file else (defaultSockets.lookup scheme).elim unknown network

/-- Does this character part a path? -/
def isSlash (kind : SchemeKind) (c : Char) : Bool := c = '/' || (c = '\\' && kind ≠ unknown)

/-- The host that a text names. -/
def host? (kind : SchemeKind) (text : List Char) : Option Host :=
  if kind = unknown then Host.ofOpaque? text else Host.ofDomain? text

end SchemeKind

namespace Address

/-- Is this a control character or a space? -/
def isControlOrSpace (c : Char) : Bool := c.toNat ≤ 0x20

/-- The text without control characters and spaces at its ends and without line breaks and tabs. -/
def tidy (text : List Char) : List Char :=
  let front := text.dropWhile isControlOrSpace
  let whole := (front.reverse.dropWhile isControlOrSpace).reverse
  whole.filter fun c => c ≠ '\t' ∧ c ≠ '\n' ∧ c ≠ '\r'

/-- May this character stand in a scheme? -/
def isSchemePart (c : Char) : Bool := c.isAlphanum || c = '+' || c = '-' || c = '.'

/-- The scheme in lower case, and what follows its colon. -/
def splitScheme? (text : List Char) : Option (String × List Char) :=
  match text, text.dropWhile isSchemePart with
  | first :: _, ':' :: rest =>
    if first.isAlpha then
      some (String.ofList ((text.takeWhile isSchemePart).map Char.toLower), rest)
    else none
  | _, _ => none

/-- The text before a mark, and what follows the mark if it occurs. -/
def splitAt (mark : Char) (text : List Char) : List Char × Option (List Char) :=
  (text.takeWhile (· ≠ mark),
    if text.contains mark then some ((text.dropWhile (· ≠ mark)).drop 1) else none)

/-- The text before the last at sign, if there is one, and the text behind it. -/
def splitUser (text : List Char) : Option (List Char) × List Char :=
  if text.contains '@' then
    let behind := (text.reverse.takeWhile (· ≠ '@')).reverse
    (some (text.take (text.length - behind.length - 1)), behind)
  else (none, text)

/-- The name and password of a user, with a colon between them. -/
def userOf (text : List Char) : UserInfo :=
  let escaped := fun part => String.ofList (Escape.text Escape.inUser part)
  let (name, password) := splitAt ':' text
  { name := escaped name
    password := match password with
      | none | some [] => none
      | some password => some (escaped password) }

/-- A host, in which colons only stand between brackets, and what follows it. -/
def spanHost (inBrackets : Bool) : List Char → List Char × List Char
  | [] => ([], [])
  | c :: rest =>
    if c = ':' && !inBrackets then ([], c :: rest)
    else
      let (host, after) := spanHost (if c = '[' then true else c ≠ ']' && inBrackets) rest
      (c :: host, after)

/-- The number of a socket behind a host, unless none is given or it is the default, and what
follows it. -/
def readSocket? (kind : SchemeKind) : List Char → Option (Option Nat × List Char)
  | ':' :: text =>
    let digits := text.takeWhile Char.isDigit
    let after := text.drop digits.length
    let number := Text.digitsValue digits
    if 2 ^ 16 ≤ number || !(after.isEmpty || after.head? = some '\\') then none
    else
      some (if digits.isEmpty || kind = .network number then none else some number, after)
  | text => some (none, text)

/-- The authority of a text, and what follows it in the text; `isLast` tells whether nothing follows
the text. -/
def readAuthority? (kind : SchemeKind) (isLast : Bool) (text : List Char) :
    Option (Authority × List Char) := do
  let (user, text) := splitUser text
  let userInfo := userOf (user.getD [])
  let (host, rest) := spanHost false text
  -- Only a scheme that is unknown may do without a host, and then without a user and a socket.
  if host.isEmpty then
    if kind ≠ .unknown || !rest.isEmpty || !userInfo.isBlank || (user = some [] && !isLast) then
      none
    else pure ({ host := none }, [])
  else
    let host ← kind.host? host
    let (socket, rest) ← readSocket? kind rest
    pure ({ user := userInfo, host := some host, socket }, rest)

/-- The path that follows the authority, or the scheme when there is none. -/
def pathOf (kind : SchemeKind) (text : List Char) : String :=
  let isSlash := kind.isSlash
  match text with
  | [] => if kind = .unknown then "" else "/"
  | c :: rest =>
    String.ofList (AddressPath.join
      (AddressPath.segments false isSlash (if isSlash c then rest else text)))

/-- The authority and path of a file: the host, which may be left out, and the segments of the
path. A path that starts at a drive has no host. -/
def readFile? (text : List Char) : Option (Authority × String) := do
  let isSlash := SchemeKind.file.isSlash
  let (host, path) ←
    match text with
    | a :: b :: rest =>
      if isSlash a && isSlash b then
        let name := rest.takeWhile (!isSlash ·)
        -- A drive in the place of the host belongs to the path.
        if AddressPath.isDrive name then pure (none, '/' :: rest)
        else if name.isEmpty then pure (none, rest)
        else do
          let host ← Host.ofDomain? name
          pure (if host = .name "localhost" then none else some host, rest.drop name.length)
      else pure (none, text)
    | _ => pure (none, text)
  let path := if path.head?.any isSlash then path.drop 1 else path
  let segments := AddressPath.segments true isSlash path
  pure ({ host := if segments.head?.any AddressPath.isDrive then none else host },
    String.ofList (AddressPath.joinFile segments))

/-- The authority and path of a text whose query and fragment have been cut off; `isLast` tells
whether there were none. -/
def readBody? (kind : SchemeKind) (isLast : Bool) (text : List Char) :
    Option (Option Authority × String) :=
  let withAuthority := fun (text : List Char) => do
    let server := text.takeWhile (!kind.isSlash ·)
    let path := text.drop server.length
    let (authority, rest) ← readAuthority? kind (isLast && path.isEmpty) server
    pure (some authority, pathOf kind (rest ++ path))
  match kind, text with
  | .file, text => (readFile? text).map fun (authority, path) => (some authority, path)
  -- Any number of slashes will do in front of the host.
  | .network _, text => withAuthority (text.dropWhile kind.isSlash)
  | .unknown, '/' :: '/' :: text => withAuthority text
  | .unknown, '/' :: text => some (none, pathOf kind ('/' :: text))
  | .unknown, text => some (none, String.ofList (Escape.text Escape.outsideText text))

/-- The address that a text gives. -/
def ofText? (text : String) : Option Address := do
  let (scheme, rest) ← splitScheme? (tidy text.toList)
  let kind := SchemeKind.ofScheme scheme
  let (rest, fragment) := splitAt '#' rest
  let (rest, query) := splitAt '?' rest
  let (authority, path) ← readBody? kind (fragment.isNone && query.isNone) rest
  let escaped := fun mustEscape (part : List Char) =>
    String.ofList (Escape.text mustEscape part)
  pure
    { scheme, authority, path
      query := query.map (escaped (Escape.inQuery (kind ≠ .unknown)))
      fragment := fragment.map (escaped Escape.inFragment) }

end Address

end SchemaDialogue
