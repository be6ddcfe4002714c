import Telemetry.Url.Percent
/-!
Paths of addresses. A path is followed segment by segment from one that is there already: a segment
of one dot stays where it is, and one of two dots goes up, but never above the root or above a drive.
-/
namespace Telemetry.Url

/-- Whether a character separates segments. -/
def separates (special : Bool) (c : Char) : Bool := c = '/' || (special && c = '\\')

/-- Whether a character ends a path. -/
def endsPath (c : Char) : Bool := c = '?' || c = '#'

/-- Whether a text is a drive: a letter and a colon, or a bar that stands for it. -/
def isDrive (segment : List Char) : Bool :=
  match segment with
  | [letter, mark] => letter.isAlpha && (mark = ':' || mark = '|')
  | _ => false

/-- Whether a text is a drive with a colon. -/
def isPlainDrive (segment : List Char) : Bool := isDrive segment && segment.getLast? = some ':'

/-- Whether the first segment of a text is a drive. -/
def beginsWithDrive (text : List Char) : Bool :=
  isDrive (text.take 2) && (text[2]?).all fun c => separates true c || endsPath c

/-- Whether a segment means the directory it stands in. -/
def isDot (segment : List Char) : Bool :=
  [".", "%2e"].contains (String.ofList (segment.map Char.toLower))

/-- Whether a segment means the directory above. -/
def isDoubleDot (segment : List Char) : Bool :=
  ["..", ".%2e", "%2e.", "%2e%2e"].contains (String.ofList (segment.map Char.toLower))

/-- What stands behind the last slash of a path. -/
def lastSegment (path : List Char) : List Char := (path.reverse.takeWhile (· ≠ '/')).reverse

/-- A path up to its last slash. -/
def directory (path : List Char) : List Char := path.take (path.length - (lastSegment path).length)

/-- A path without its last segment; in addresses of files a drive stays. -/
def dropLast (file : Bool) (path : List Char) : List Char :=
  if file && isPlainDrive (lastSegment path) then path else directory path

/-- A path with a slash at its end, if it has none. -/
def endInSlash (path : List Char) : List Char :=
  if path.getLast? = some '/' then path else path ++ ['/']

/-- A path without the slash at its end. The slash behind a drive stays, and that of the root. -/
def dropSlash (path : List Char) : List Char :=
  let before := path.dropLast
  if path.getLast? = some '/' && before.contains '/' &&
      !beginsWithDrive (path.drop (directory before).length) then before
  else path

/-- The segment above the one that a path ends in. -/
def goUp (file : Bool) (path : List Char) : List Char := dropLast file (dropSlash path)

/-- Writes a segment behind a path. In addresses of files what is written behind a drive is set apart
from it by a slash. -/
def write (file : Bool) (path : List Char) (segment : List Char) : List Char :=
  segment.foldl (fun path c =>
    (if file && isPlainDrive (path.drop 1) then path ++ ['/'] else path) ++ encodeChar pathSet c)
    path

/-- Where a segment begins that was written behind a path of some length: behind a slash that sets a
drive apart, one character further. -/
def segmentStart (file : Bool) (path segment : List Char) : Nat :=
  let apart := file && (List.range segment.length).any fun i =>
    isPlainDrive ((write file path (segment.take i)).drop 1)
  if apart then path.length + 1 else path.length

/-- Follows one segment, which is the last one or not. Besides the path it gives whether it has found
a drive in front. -/
def followSegment (file last : Bool) (path segment : List Char) : List Char × Bool :=
  let written := write file path segment
  let start := segmentStart file path segment
  let text := written.drop start
  let before := written.take start
  if isDoubleDot text then
    let path := goUp file before
    (if last then path else endInSlash path, false)
  else if isDot text then (endInSlash before, false)
  else
    let drive := file && start = 1 && isDrive text
    let written := if drive then before ++ text.take 1 ++ [':'] else written
    (if last then written else written ++ ['/'], drive)

/-- Follows segments from a path. -/
def follow (file : Bool) : List Char → List (List Char) → List Char × Bool
  | path, [] => (path, false)
  | path, segment :: rest =>
    let (path, drive) := followSegment file rest.isEmpty path segment
    let (path, drives) := follow file path rest
    (path, drive || drives)

/-- Follows segments from the path of a file: slashes in front count once. -/
def followFile (path : List Char) (segments : List (List Char)) : List Char × Bool :=
  let (path, drive) := follow true path segments
  ('/' :: path.dropWhile (· = '/'), drive)

end Telemetry.Url
