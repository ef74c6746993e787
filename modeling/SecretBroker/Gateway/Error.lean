/-!
# Gateway errors

Why an exchange with the gateway gave no answer to build on. An absent consumer or credential is no
error. The wording of every error is in `GatewayError.message`; what other parts ask of an error is
whether another attempt may help (`isRetryable`) and whether it speaks against the gateway
(`countsAsFailure`).
-/

namespace SecretBroker

/-- A failure below the level of HTTP statuses: its text, and the texts of what caused it, outermost
first. -/
structure Fault where
  text : String
  causes : List String := []
deriving DecidableEq, Repr

inductive GatewayError where
  /-- No answer within the time allowed; the text names what was asked for. -/
  | timeout (operation message : String)
  /-- The network failed in another way than by silence. -/
  | transport (operation : String) (fault : Fault)
  /-- A status of 500 or more. -/
  | unavailable (operation : String) (status : Nat)
  /-- The operation's circuit breaker let no call through. -/
  | circuitOpen (operation : String)
  /-- Settings, or a state of the gateway, that no repetition mends. -/
  | configuration (problem : String)
  /-- A status that the flow has no use for. -/
  | unexpectedStatus (operation : String) (status : Nat) (body : String)
  /-- A body that could not be read as what was asked for. -/
  | invalidResponse (operation problem : String)
deriving DecidableEq, Repr

namespace GatewayError

/-- Characters of a body that an error keeps. -/
def bodyLimit : Nat := 512

/-- A body cut after `bodyLimit` characters, three dots marking the cut. -/
def shortened (body : String) : String :=
  let cs := body.toList
  if cs.length ≤ bodyLimit then body else String.ofList (cs.take bodyLimit) ++ "..."

/-- The error for a status without use, its body shortened. -/
def unexpected (operation : String) (status : Nat) (body : String) : GatewayError :=
  .unexpectedStatus operation status (shortened body)

/-- Whether another attempt may succeed: nothing definite came back. -/
def isRetryable : GatewayError → Bool
  | .timeout .. | .transport .. => true
  | _ => false

/-- Whether the error speaks against the health of the gateway. -/
def countsAsFailure : GatewayError → Bool
  | .timeout .. | .transport .. | .unavailable .. => true
  | _ => false

def isTimeout : GatewayError → Bool
  | .timeout .. => true
  | _ => false

def isCircuitOpen : GatewayError → Bool
  | .circuitOpen .. => true
  | _ => false

/-- The HTTP status that the error reports. -/
def status? : GatewayError → Option Nat
  | .unavailable _ status | .unexpectedStatus _ status _ => some status
  | _ => none

/-- The operation in which the error arose; a configuration error belongs to none. -/
def operation? : GatewayError → Option String
  | .timeout op _ | .transport op _ | .unavailable op _ | .circuitOpen op
  | .unexpectedStatus op _ _ | .invalidResponse op _ => some op
  | .configuration _ => none

/-- The text shown for the error. -/
def message : GatewayError → String
  | .timeout _ message => message
  | .transport op fault => "Transport error during " ++ op ++ ": " ++ fault.text
  | .unavailable op status => "Gateway unavailable during " ++ op ++ ": HTTP " ++ toString status
  | .circuitOpen op => "Circuit breaker open for operation: " ++ op
  | .configuration problem => "Configuration error: " ++ problem
  | .unexpectedStatus op status body =>
    "Unexpected HTTP " ++ toString status ++ " during " ++ op ++ ": " ++ body
  | .invalidResponse op problem => "Invalid response during " ++ op ++ ": " ++ problem

/-- The texts of what caused the error, outermost first. -/
def causes : GatewayError → List String
  | .transport _ fault => fault.text :: fault.causes
  | _ => []

theorem countsAsFailure_of_isRetryable {e : GatewayError} (h : e.isRetryable = true) :
    e.countsAsFailure = true := by
  cases e <;> simp_all [isRetryable, countsAsFailure]

end GatewayError
end SecretBroker
