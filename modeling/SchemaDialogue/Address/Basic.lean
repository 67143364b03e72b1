import SchemaDialogue.Address.Host

/-!
# Addresses

An address has a scheme and a path. It may have an authority, which is a host with the number of a
socket and the name and password of a user, and it may have a query and a fragment.
-/

namespace SchemaDialogue

/-- The name of a user, and the password unless it is empty, both escaped. -/
structure UserInfo where
  name : String := ""
  password : Option String := none
deriving DecidableEq

/-- Whose address it is. -/
structure Authority where
  user : UserInfo := {}
  host : Option Host
  /-- The number of a socket, unless it is the default of the scheme. -/
  socket : Option Nat := none
deriving DecidableEq

structure Address where
  scheme : String
  authority : Option Authority
  /-- The path with its slash, or what stands for it when there is no authority. -/
  path : String
  query : Option String
  fragment : Option String
deriving DecidableEq

namespace UserInfo

/-- Is there neither a name nor a password? -/
def isBlank (u : UserInfo) : Bool := u.name = "" && u.password.isNone

/-- The text before a host. -/
def text (u : UserInfo) : String :=
  if u.isBlank then "" else u.name ++ (u.password.elim "" (":" ++ ·)) ++ "@"

/-- Is this a text with escapes? -/
def isReadable (text : String) : Bool := (Escape.decodeText? text.toList).isSome

/-- What is left when a name and password that can be read are taken out. -/
def unread (u : UserInfo) : UserInfo :=
  if isReadable u.name && (u.name ≠ "" || u.password.any isReadable) then {} else u

end UserInfo

namespace Authority

/-- The host with the number of its socket. -/
def server (a : Authority) : String :=
  (a.host.elim "" Host.text) ++ (a.socket.elim "" fun n => ":" ++ toString n)

def text (a : Authority) : String := a.user.text ++ a.server

end Authority

namespace Address

/-- The path with its query. -/
def target (a : Address) : String := a.path ++ a.query.elim "" ("?" ++ ·)

/-- The text of an address. Without an authority, a path with two slashes in front gets a dot. -/
def text (a : Address) : String :=
  let authority := match a.authority with
    | some authority => "//" ++ authority.text
    | none => if a.path.startsWith "//" then "/." else ""
  a.scheme ++ ":" ++ authority ++ a.target ++ a.fragment.elim "" ("#" ++ ·)

def host? (a : Address) : Option Host := a.authority.bind (·.host)

/-- The host of an address with the number of its socket. -/
def server (a : Address) : String := a.authority.elim "" Authority.server

/-- The address without a name and password that can be read. -/
def withoutUser (a : Address) : Address :=
  { a with authority := a.authority.map fun authority =>
      { authority with user := authority.user.unread } }

/-- The schemes of the web. -/
def webSchemes : List String := ["http", "https"]

/-- Characters that a host may have, but not one that requests are sent to. -/
def isUnrequestable (c : Char) : Bool := "\"`\x7b\x7d".toList.contains c

/-- The most bytes of an address that requests are sent to. -/
def longestRequested : Nat := 65534

/-- Can a request be sent to this address? -/
def isRequestable (a : Address) : Bool :=
  webSchemes.contains a.scheme && a.text.utf8ByteSize ≤ longestRequested &&
    !a.server.toList.any isUnrequestable

end Address

end SchemaDialogue
