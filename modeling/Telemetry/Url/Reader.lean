import Telemetry.Text.Split
import Telemetry.Url.Basic
import Telemetry.Url.Path
/-!
Reading web addresses, alone or relative to another. White space around an address and line ends
inside it do not count; hosts and paths are brought into their usual form.
-/
namespace Telemetry.Url

/-- The special schemes with their usual ports. -/
def specialSchemes : List (String × Option Nat) :=
  [("http", some 80), ("https", some 443), ("ws", some 80), ("wss", some 443), ("ftp", some 21),
   ("file", none)]

/-- Whether a scheme is special: it has hosts, and a backslash separates as a slash does. -/
def isSpecial (scheme : String) : Bool := (specialSchemes.lookup scheme).isSome

/-- The usual port of a scheme. -/
def usualPort (scheme : String) : Option Nat := (specialSchemes.lookup scheme).join

/-- A text without spaces and controls around it and without tabs and line ends. -/
def clean (text : String) : List Char :=
  let outside (c : Char) : Bool := c.toNat ≤ 0x20
  let inner := ((text.toList.dropWhile outside).reverse.dropWhile outside).reverse
  inner.filter fun c => c ≠ '\t' && c ≠ '\n' && c ≠ '\r'

/-- The scheme in front of a text, in small letters, and what follows its colon. -/
def readScheme? (text : List Char) : Option (String × List Char) :=
  let part (c : Char) : Bool := c.isAlphanum || c = '+' || c = '-' || c = '.'
  match text with
  | [] => none
  | first :: _ =>
    if !first.isAlpha then none
    else match text.dropWhile part with
      | ':' :: rest => some (String.ofList ((text.takeWhile part).map Char.toLower), rest)
      | _ => none

/-- The pieces of a path between its separators. -/
def pieces (special : Bool) (path : List Char) : List (List Char) :=
  Text.splitOn '/' (path.map fun c => if separates special c then '/' else c)

/-- The query and the fragment at the end of an address. -/
def withEnd (url : Url) (text : List Char) : Url :=
  let (query, rest) := match text with
    | '?' :: rest =>
      let set := if isSpecial url.scheme then specialQuerySet else querySet
      (some (encode set (rest.takeWhile (· ≠ '#'))), rest.dropWhile (· ≠ '#'))
    | _ => (none, text)
  let fragment := match rest with
    | '#' :: rest => some (encode fragmentSet rest)
    | _ => none
  { url with query, fragment }

/-- Reads the path in front of a text, followed from another path, and what comes after it. -/
def withPath (url : Url) (path text : List Char) : Url :=
  let pieces := pieces (isSpecial url.scheme) (text.takeWhile (!endsPath ·))
  { url with
    path := if url.scheme = "file" then (followFile path pieces).1 else (follow false path pieces).1
    }.withEnd (text.dropWhile (!endsPath ·))

/-- The user in front of a host: what stands before the last `@` of the authority. -/
def readUser (special : Bool) (text : List Char) :
    Except Fault ((List Char × List Char) × List Char) :=
  let authority := text.takeWhile fun c => !separates special c && !endsPath c
  let after := authority.reverse.takeWhile (· ≠ '@')
  if after.length = authority.length then .ok (([], []), text)
  else
    let user := authority.take (authority.length - after.length - 1)
    let rest := text.drop (user.length + 1)
    if user.isEmpty then
      if after.isEmpty ∧ !rest.isEmpty then .error .emptyHost else .ok (([], []), rest)
    else
      let name := user.takeWhile (· ≠ ':')
      let password := (user.drop name.length).drop 1
      .ok ((encode userSet name, encode userSet password), rest)

/-- The text of a host in front of a text: up to a colon that stands outside square brackets. -/
def takeHost (special inBrackets : Bool) : List Char → List Char
  | [] => []
  | c :: rest =>
    if (c = ':' && !inBrackets) || separates special c || endsPath c then []
    else c :: takeHost special (if c = '[' then true else if c = ']' then false else inBrackets) rest

/-- The port behind a colon; the usual one of the scheme is left out. -/
def readPort (scheme : String) (text : List Char) : Except Fault (Option Nat × List Char) :=
  let digits := text.takeWhile Char.isDigit
  let rest := text.drop digits.length
  let port := digits.foldl (fun n c => 10 * n + (c.toNat - '0'.toNat)) 0
  let ended := match rest with
    | [] => true
    | c :: _ => separates true c || endsPath c
  if 2 ^ 16 ≤ port ∨ !ended then .error .invalidPort
  else if digits.isEmpty ∨ usualPort scheme = some port then .ok (none, rest)
  else .ok (some port, rest)

/-- The host and port in front of a text. -/
def readHost (scheme : String) (text : List Char) : Except Fault ((Host × Option Nat) × List Char) :=
  let name := takeHost (isSpecial scheme) false text
  let rest := text.drop name.length
  if name.isEmpty ∧ (isSpecial scheme ∨ rest.head? = some ':') then .error .emptyHost
  else do
    let host ← if isSpecial scheme then Host.read name else Host.readUnknown name
    match rest with
    | ':' :: rest =>
      let (port, rest) ← readPort scheme rest
      return ((host, port), rest)
    | rest => return ((host, none), rest)

/-- An address from behind the two slashes in front of its authority. -/
def readAuthority (scheme : String) (text : List Char) : Except Fault Url := do
  let special := isSpecial scheme
  let ((username, password), text) ← readUser special text
  let ((host, port), text) ← readHost scheme text
  let url : Url := { scheme, authority := some ⟨username, password, host, port⟩ }
  if host = .domain [] ∧ !(username.isEmpty ∧ password.isEmpty) then throw .emptyHost
  else match text with
    | [] => return if special then url.withPath ['/'] [] else url
    | c :: rest =>
      if separates special c then return url.withPath ['/'] rest
      else if special ∨ !endsPath c then return url.withPath ['/'] text
      else return url.withEnd text

/-- The host of a file; the own machine has no name. -/
def readFileHost (name : List Char) : Except Fault Host :=
  if name.isEmpty then .ok (.domain [])
  else (Host.read name).map fun host => if host = .domain "localhost".toList then .domain [] else host

/-- The address of a file on a host. A drive in front of the path is one of the own machine. The text
is what comes after the slash in front of the path. -/
def readFileOn (url : Url) (host : Host) (text : List Char) : Url :=
  let drive := (followFile ['/'] (pieces true (text.takeWhile (!endsPath ·)))).2
  { url with authority := some { host := if drive then .domain [] else host } }.withPath ['/'] text

/-- The address of a file, from behind its scheme. Without a host it is on the host of the base, and
without a drive on the drive of the base. -/
def readFile (base : Option Url) (text : List Char) : Except Fault Url :=
  let slash (c : Char) : Bool := separates true c
  let url : Url := { scheme := "file", authority := some { host := .domain [] } }
  match text with
  | [] => .ok (match base with
    | none => url.withPath ['/'] []
    | some base => { base with fragment := none })
  | first :: rest =>
    if slash first then
      if rest.head?.any slash then
        let rest := rest.drop 1
        let name := rest.takeWhile fun c => !slash c && !endsPath c
        if isDrive name then .ok (url.readFileOn (.domain []) rest)
        else do
          let host ← readFileHost name
          let after := rest.drop name.length
          return url.readFileOn host
            (if host ≠ .domain [] ∧ after.head?.any slash then after.drop 1 else after)
      else match base with
        | some base =>
          let drive := (base.path.drop 1).takeWhile (· ≠ '/')
          if beginsWithDrive rest then .ok (url.withPath ['/'] rest)
          else if isPlainDrive drive then .ok (url.withPath ('/' :: (drive ++ ['/'])) rest)
          else .ok ({ url with authority := base.authority }.withPath ['/'] rest)
        | none => .ok (url.withPath ['/'] rest)
    else match base with
      | none => .ok (url.withPath ['/'] text)
      | some base =>
        if first = '?' then .ok (base.withEnd text)
        else if first = '#' then .ok { base.withEnd text with query := base.query }
        else if beginsWithDrive text then .ok (url.withPath ['/'] text)
        else .ok (base.withPath (dropLast true base.path) text)

/-- An address relative to another one whose path has structure. -/
def readRelative (base : Url) (text : List Char) : Except Fault Url :=
  match text with
  | [] => .ok { base with fragment := none }
  | '?' :: _ => .ok (base.withEnd text)
  | '#' :: _ => .ok { base.withEnd text with query := base.query }
  | first :: rest =>
    if separates true first then
      match rest with
      | second :: after =>
        if separates true second then
          readAuthority base.scheme
            (if first = '/' ∧ second = '/' then after else text.dropWhile (separates true))
        else .ok (base.withPath ['/'] rest)
      | [] => .ok (base.withPath ['/'] [])
    else
      let path := dropLast false base.path
      .ok (base.withPath (if path.isEmpty then ['/'] else path) text)

/-- An address of an unknown scheme without an authority. -/
def readUnknown (scheme : String) (text : List Char) : Except Fault Url :=
  match text with
  | '/' :: '/' :: rest => readAuthority scheme rest
  | '/' :: rest => .ok ({ scheme : Url }.withPath ['/'] rest)
  | _ =>
    let path := encode [] (text.takeWhile (!endsPath ·))
    .ok ({ scheme, path : Url }.withEnd (text.dropWhile (!endsPath ·)))

/-- Reads an address, which may be relative to a base (`Url::parse`, `Url::join`). -/
def read (text : String) (base : Option Url) : Except Fault Url :=
  let text := clean text
  match readScheme? text with
  | some (scheme, rest) =>
    if scheme = "file" then readFile (base.filter (·.scheme = "file")) rest
    else if isSpecial scheme then
      let slashes := rest.takeWhile (separates true)
      match base.filter fun base => base.scheme = scheme ∧ slashes.length < 2 with
      | some base => readRelative base rest
      | none => readAuthority scheme (rest.drop slashes.length)
    else readUnknown scheme rest
  | none =>
    match base with
    | none => .error .relativeWithoutBase
    | some base =>
      if text.head? = some '#' then .ok { base.withEnd text with query := base.query }
      else if base.isOpaque then .error .relativeToUnstructured
      else if base.scheme = "file" then readFile (some base) text
      else readRelative base text

end Telemetry.Url
