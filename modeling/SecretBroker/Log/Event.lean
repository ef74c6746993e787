import SecretBroker.Json.Value
import SecretBroker.Log.Format

/-!
# Log events

What the program does is told by events, each from a part of the program and with fields of its own.
A log layer is set up with a filter and a format and writes a line for each event that its filter
lets through. It is not part of the program, so all that is known of it here is what it writes for
which event; it writes to the same channel as the answers of a command.
-/

namespace SecretBroker.Log

inductive Level where
  | error
  | warn
  | info
  | debug
  | trace
deriving DecidableEq, Repr

/-- The name of a level in a log line. -/
def Level.name : Level → String
  | .error => "ERROR"
  | .warn => "WARN"
  | .info => "INFO"
  | .debug => "DEBUG"
  | .trace => "TRACE"

structure Event where
  level : Level
  /-- The part of the program that it comes from. -/
  target : String
  message : String
  fields : List (String × Json.Value) := []
deriving Repr

/-- What a log layer is set up with. -/
structure Setup where
  filter : String
  format : LogFormat
  /-- Whether lines for people name the part of the program. -/
  withTarget : Bool
deriving DecidableEq, Repr

/-- A log layer: what it writes for the event of this number, if its filter lets the event
through. -/
abbrev Layer := Setup → Nat → Event → Option String

/-- What a log layer writes for events, of which the first has this number. -/
def Layer.lines (layer : Layer) (setup : Setup) (first : Nat) (events : List Event) : List String :=
  (events.zipIdx first).filterMap fun (e, n) => layer setup n e

end SecretBroker.Log
