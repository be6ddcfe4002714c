import Telemetry.Url.Host
/-!
Web addresses in their parts, and as text, as the `url` library has them.
-/
namespace Telemetry

/-- The user, the host and the port of an address. -/
structure Authority where
  username : List Char := []
  password : List Char := []
  host : Url.Host
  /-- Left out where it is the usual one of the scheme. -/
  port : Option Nat := none
deriving DecidableEq

/-- A web address. -/
structure Url where
  scheme : String
  authority : Option Authority := none
  /-- A path that does not begin with a slash has no structure, if no authority comes before it. -/
  path : List Char := []
  query : Option (List Char) := none
  fragment : Option (List Char) := none
deriving DecidableEq

namespace Url

/-- Whether nothing is relative to an address, as its path has no structure. -/
def isOpaque (url : Url) : Bool := url.authority.isNone && url.path.head? ≠ some '/'

/-- The user and the password in front of a host. -/
def userText (authority : Authority) : List Char :=
  if authority.username.isEmpty ∧ authority.password.isEmpty then []
  else if authority.password.isEmpty then authority.username ++ ['@']
  else authority.username ++ ':' :: (authority.password ++ ['@'])

/-- What stands between the scheme and the path. -/
def authorityText : Option Authority → List Char
  | none => []
  | some authority =>
    '/' :: '/' :: (userText authority ++ authority.host.text ++
      match authority.port with
      | none => []
      | some port => ':' :: Nat.toDigits 10 port)

/-- The path of an address as text. Without a host, a path that begins with two slashes is kept apart
from what a host would begin with. -/
def pathText (url : Url) : List Char :=
  match url.authority, url.path with
  | none, '/' :: '/' :: rest => '/' :: '.' :: '/' :: '/' :: rest
  | _, path => path

/-- Something behind its mark, if it is there. -/
def marked (mark : Char) : Option (List Char) → List Char
  | none => []
  | some text => mark :: text

/-- An address as text. -/
def text (url : Url) : String :=
  String.ofList (url.scheme.toList ++ ':' :: (authorityText url.authority ++
    pathText url ++ marked '?' url.query ++ marked '#' url.fragment))

end Url
end Telemetry
