/-!
# Commands

What a person can ask of the program, and how the answer is wanted.
-/

namespace SecretBroker

inductive Command where
  | health
  /-- Look a consumer's secret up, and show it unmasked if `inClear`. -/
  | getSecret (consumer : String) (inClear : Bool)
  /-- Have a new secret made for a consumer, and show it unmasked if `inClear`. -/
  | createSecret (consumer : String) (inClear : Bool)
  | validate
deriving DecidableEq, Repr

/-- The word for the command on a command line. -/
def Command.name : Command → String
  | .health => "health"
  | .getSecret .. => "get-secret"
  | .createSecret .. => "create-secret"
  | .validate => "validate"

/-- One start of the program. -/
structure Invocation where
  command : Command
  /-- How often more logging was asked for. -/
  verbosity : Nat := 0
  asJson : Bool := false
  settingsFile : Option String := none
deriving DecidableEq, Repr

end SecretBroker
