import Telemetry.Text.Blank
/-!
Short names of types. A type is given by its full name, such as `app::errors::NotFound`; its short
name is the last segment, without generic arguments, `dyn` and bounds, and owning pointers around
it are looked through.
-/
namespace Telemetry.TypeName

/-- A text up to the first pair of colons. -/
def untilColons : List Char → List Char
  | [] => []
  | ':' :: ':' :: _ => []
  | c :: rest => c :: untilColons rest

/-- What follows the last pair of colons. -/
def lastSegment (path : List Char) : List Char := (untilColons path.reverse).reverse

/-- A text without the mark of a trait object in front. -/
def stripDyn (name : List Char) : List Char :=
  match name with
  | 'd' :: 'y' :: 'n' :: ' ' :: rest => rest
  | name => name

/-- Whether a character ends the path of a type: generic arguments or bounds begin there. -/
def endsPath (c : Char) : Bool := c = '<' || c = '+'

/-- The owning pointers. -/
def pointers : List (List Char) := ["Box".toList, "Arc".toList, "Rc".toList]

/-- What stands between angle brackets, if a text begins and ends with them. -/
def inBrackets? : List Char → Option (List Char)
  | '<' :: rest => if rest.getLast? = some '>' then some rest.dropLast else none
  | _ => none

/-- The short name of a type without white space around it. -/
def pathName (name : List Char) : List Char :=
  lastSegment (Text.trimEnd (name.takeWhile (!endsPath ·)))

/-- The type that an owning pointer points to. -/
def pointee? (name : List Char) : Option (List Char) :=
  if pointers.contains (pathName name) then inBrackets? (name.dropWhile (!endsPath ·)) else none

theorem length_trim_le (text : List Char) : (Text.trim text).length ≤ text.length := by
  have dropped (p : Char → Bool) (cs : List Char) : (cs.dropWhile p).length ≤ cs.length :=
    (List.dropWhile_sublist p).length_le
  simp only [Text.trim, Text.trimEnd, List.length_reverse]
  calc _ ≤ (text.dropWhile Text.isBlank).reverse.length := dropped _ _
    _ ≤ text.length := by simpa using dropped _ _

theorem length_stripDyn_le (name : List Char) : (stripDyn name).length ≤ name.length := by
  unfold stripDyn
  split
  · simp only [List.length_cons]
    omega
  · exact Nat.le_refl _

theorem length_lt_of_inBrackets? {text inner : List Char} (found : inBrackets? text = some inner) :
    inner.length < text.length := by
  unfold inBrackets? at found
  split at found
  · split at found
    · cases found
      simp only [List.length_dropLast, List.length_cons]
      omega
    · cases found
  · cases found

theorem length_lt_of_pointee? {name inner : List Char} (found : pointee? name = some inner) :
    inner.length < name.length := by
  unfold pointee? at found
  split at found
  · exact Nat.lt_of_lt_of_le (length_lt_of_inBrackets? found)
      (List.dropWhile_sublist _).length_le
  · cases found

/-- The short name of a type. -/
def simple (fullName : List Char) : List Char :=
  let name := stripDyn (Text.trim fullName)
  match _found : pointee? name with
  | some inner => simple inner
  | none => pathName name
termination_by fullName.length
decreasing_by
  have : inner.length < (stripDyn (Text.trim fullName)).length := length_lt_of_pointee? _found
  have := length_stripDyn_le (Text.trim fullName)
  have := length_trim_le fullName
  omega

/-- The short name of a type, as a string (`simple_type_name`). -/
def simpleName (fullName : String) : String := String.ofList (simple fullName.toList)

end Telemetry.TypeName
