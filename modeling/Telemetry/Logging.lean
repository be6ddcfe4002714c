import Telemetry.Error
import Telemetry.Text.Blank
import Telemetry.Text.Split
/-!
Settings of the log: its format, the filter that chooses what is logged, and whether the place in
the program is told. Of the filters of `tracing_subscriber` only counts whether they can be read;
what is logged is left out everywhere.
-/
namespace Telemetry

/-- The format of log records. -/
inductive LogFormat where
  | pretty
  | json
  | compact
deriving DecidableEq, Repr

namespace LogFormat

/-- The format of a word, whose case and surroundings do not count (`LogFormat::from_str`); or why
there is none. -/
def read (text : String) : Except String LogFormat :=
  let word := String.ofList ((Text.trim text.toList).map Char.toLower)
  match word with
  | "pretty" => .ok pretty
  | "json" => .ok json
  | "compact" => .ok compact
  | _ => .error ("unknown log format " ++ Text.quoted word)

end LogFormat

/-- Settings of the log (`ObservabilityConfig`). -/
structure LogSettings where
  format : LogFormat := .pretty
  filter : String := "info"
  withLocation : Bool := true
deriving DecidableEq

namespace LogSettings

/-- Reads the settings from environment variables (`ObservabilityConfig::from_env`). What is no
format is passed over. -/
def ofVariables (value? : String → Option String) : LogSettings where
  format := match (value? "LOG_FORMAT").map LogFormat.read with
    | some (.ok format) => format
    | _ => .pretty
  filter := (value? "RUST_LOG").getD "info"
  withLocation := match value? "LOG_LOCATION" with
    | some value => value ≠ "false" && value ≠ "0"
    | none => true

/-- The levels of a filter. -/
def levels : List String :=
  ["off", "error", "warn", "info", "debug", "trace", "0", "1", "2", "3", "4", "5"]

/-- What follows the first `=` that stands outside brackets. -/
def levelOf? (depth : Nat) : List Char → Option (List Char)
  | [] => none
  | '[' :: rest => levelOf? (depth + 1) rest
  | ']' :: rest => levelOf? (depth - 1) rest
  | '=' :: rest => if depth = 0 then some rest else levelOf? depth rest
  | _ :: rest => levelOf? depth rest

/-- Whether a directive of a filter asks for a level that exists. -/
def isDirective (directive : List Char) : Bool :=
  match levelOf? 0 directive with
  | none => true
  | some level => level.isEmpty || levels.contains (String.ofList (level.map Char.toLower))

/-- Checks that every directive of a filter can be read (`filter`). -/
def checkFilter (filter : String) : Except Error Unit :=
  if (Text.splitOn ',' filter.toList).all isDirective then .ok ()
  else .error (.logging ("Invalid log filter: error parsing level filter: expected one of " ++
    "\"off\", \"error\", \"warn\", \"info\", \"debug\", \"trace\", or a number 0-5"))

end LogSettings
end Telemetry
