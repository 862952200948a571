import Enrolment.Url.Host

set_option autoImplicit false

namespace Enrolment

inductive SchemeKind
  | web
  | file
  | other
  deriving Repr, DecidableEq

namespace Url

def schemeKind (scheme : List Char) : SchemeKind :=
  let name := String.ofList scheme
  if ["http", "https", "ws", "wss", "ftp"].contains name then .web
  else if name = "file" then .file
  else .other

def defaultPort? (scheme : List Char) : Option Nat :=
  let name := String.ofList scheme
  if name = "http" || name = "ws" then some 80
  else if name = "https" || name = "wss" then some 443
  else if name = "ftp" then some 21
  else none

structure Authority where
  user : List Char := []
  password : List Char := []
  host : Option Host := none
  port : Option Nat := none
  deriving Repr, DecidableEq

inductive Path
  -- Text without any structure.
  | undivided (text : List Char)
  -- Segments that each follow a slash.
  | segments (segments : List (List Char))
  deriving Repr, DecidableEq, Inhabited

end Url

-- All parts are percent encoded; a port that is the scheme's default is none.
structure Url where
  scheme : List Char
  authority : Option Url.Authority
  path : Url.Path
  query : Option (List Char) := none
  fragment : Option (List Char) := none
  deriving Repr, DecidableEq, Inhabited

namespace Url

def Authority.text (authority : Authority) : List Char :=
  let password := if authority.password.isEmpty then [] else ':' :: authority.password
  let credentials := authority.user ++ password
  (if credentials.isEmpty then [] else credentials ++ ['@']) ++
    ((authority.host.map Host.text).getD []) ++
    (match authority.port with
      | some port => ':' :: (toString port).toList
      | none => [])

def Path.text : Path → List Char
  | undivided chars => chars
  | segments parts => parts.flatMap fun segment => '/' :: segment

-- An empty first segment would be taken for the start of an authority, and gets a dot in front.
def Path.textAlone : Path → List Char
  | segments ([] :: segment :: more) => '/' :: '.' :: Path.text (segments ([] :: segment :: more))
  | path => path.text

def behind (sign : Char) : Option (List Char) → List Char
  | some part => sign :: part
  | none => []

def chars (url : Url) : List Char :=
  url.scheme ++ ':' ::
    (match url.authority with
      | some authority => '/' :: '/' :: authority.text ++ url.path.text
      | none => url.path.textAlone) ++
    behind '?' url.query ++ behind '#' url.fragment

def text (url : Url) : String := String.ofList url.chars

end Url

end Enrolment
