import Telemetry.Error
import Telemetry.Route.Path
/-!
Route templates: paths whose segments are literals, captures in braces, which can ask for an expression
behind a colon, and a catch-all at the end. Templates know nothing of the language that the expressions
are written in but that they can be read and that they are found in a text or not.
-/
namespace Telemetry.Route

/-- A language of expressions. -/
class Expressions (ε : Type) where
  /-- Reads an expression that has to match whole texts, or explains why it is refused. -/
  readWhole : String → Except String ε
  /-- Whether an expression is found in a text. -/
  isIn : ε → String → Bool

/-- One segment of a template. -/
inductive Segment (ε : Type) where
  | literal (text : List Char)
  /-- Any segment that is not empty and that the expression, if there is one, is found in. -/
  | capture (demand : Option ε)
  /-- Whatever is left, as long as something is. -/
  | catchAll

/-- A template, with the text it was read from (`RouteTemplate`). -/
structure Template (ε : Type) where
  pattern : String
  segments : List (Segment ε)

variable {ε : Type} [Expressions ε]

namespace Template

/-- A failure to read a template. -/
def invalid (pattern explanation : String) : Error :=
  .invalidSetting ("route " ++ pattern) explanation

/-- What stands between braces, if a segment is in braces. -/
def inBraces? (part : List Char) : Option (List Char) :=
  match part with
  | '\x7b' :: rest => if rest.getLast? = some '\x7d' then some rest.dropLast else none
  | _ => none

/-- One segment; `last` says whether it is the last one. -/
def readSegment (pattern : String) (last : Bool) (part : List Char) : Except Error (Segment ε) :=
  match inBraces? part with
  | none => .ok (.literal part)
  | some ('*' :: _) =>
    if last then .ok .catchAll else .error (invalid pattern "catch-all must be the last segment")
  | some inner =>
    match Text.splitOnce? ':' inner with
    | none => .ok (.capture none)
    | some (_, expression) =>
      match Expressions.readWhole (String.ofList expression) with
      | .ok demand => .ok (.capture (some demand))
      | .error explanation => .error (invalid pattern explanation)

/-- The segments of a template. -/
def readSegments (pattern : String) : List (List Char) → Except Error (List (Segment ε))
  | [] => .ok []
  | part :: rest =>
    match readSegment pattern rest.isEmpty part with
    | .error error => .error error
    | .ok segment =>
      match readSegments pattern rest with
      | .error error => .error error
      | .ok segments => .ok (segment :: segments)

/-- Reads a template (`RouteTemplate::parse`). -/
def read (pattern : String) : Except Error (Template ε) :=
  if pattern.toList.head? = some '/' then
    (readSegments pattern (Route.segments pattern.toList)).map (⟨pattern, ·⟩)
  else .error (invalid pattern "template must start with '/'")

end Template

/-- Whether one part of a path fits a segment. -/
def Segment.fits : Segment ε → List Char → Bool
  | .literal text, part => text = part
  | .capture none, part => !part.isEmpty
  | .capture (some demand), part => !part.isEmpty && Expressions.isIn demand (String.ofList part)
  | .catchAll, _ => true

/-- Whether the parts of a path fit some segments. -/
def fitAll : List (Segment ε) → List (List Char) → Bool
  | [], parts => parts.isEmpty
  | .catchAll :: _, parts => !parts.isEmpty
  | _ :: _, [] => false
  | segment :: segments, part :: parts => segment.fits part && fitAll segments parts

/-- Whether a path fits a template (`RouteTemplate::matches`). -/
def Template.accepts (template : Template ε) (path : String) : Bool :=
  fitAll template.segments (Route.segments path.toList)

end Telemetry.Route
