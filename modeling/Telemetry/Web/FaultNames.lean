import Telemetry.Web.TypeName
/-!
Names for the faults that requests end with. A fault has a type, and is named by it; behind a
general type the own type of a fault is hidden, and shows only if it was registered.
-/
namespace Telemetry

/-- A fault: the full name of its own type, and what more is known of it. -/
structure Fault where
  typeName : String
  details : String
deriving DecidableEq

/-- A fault as it was raised: under a type that may hide the fault's own. -/
structure Raised where
  typeName : String
  hidden : Option Fault
deriving DecidableEq

/-- How the faults of a type are named. -/
structure FaultNamer where
  typeName : String
  name : Fault → String

/-- The registered types (`ExceptionNames`); earlier ones come first. -/
abbrev FaultNames := List FaultNamer

namespace FaultNames

/-- Registers a type whose faults are named by its short name (`ExceptionNames::exception_type`). -/
def addType (names : FaultNames) (typeName : String) : FaultNames :=
  names ++ [⟨typeName, fun _ => TypeName.simpleName typeName⟩]

/-- Registers a type with names for its faults (`ExceptionNames::exception_name`). -/
def addNamed (names : FaultNames) (typeName : String) (name : Fault → String) : FaultNames :=
  names ++ [⟨typeName, name⟩]

/-- The name of a fault whose own type is registered (`ExceptionNames::resolve`). -/
def resolve? (names : FaultNames) (fault : Fault) : Option String :=
  (names.find? (·.typeName = fault.typeName)).map (·.name fault)

/-- The name of a raised fault (`ExceptionNames::name_of`): by its own type if that is hidden and
registered, else by the type it was raised under. -/
def nameOf (names : FaultNames) (raised : Raised) : String :=
  (raised.hidden.bind names.resolve?).getD (TypeName.simpleName raised.typeName)

/-- How many types are registered, in words. -/
def description (names : FaultNames) : String :=
  "ExceptionNames \x7b namers: " ++ toString names.length ++ " \x7d"

end FaultNames
end Telemetry
