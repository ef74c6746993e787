import SecretBroker.Gateway.Session
import SecretBroker.Settings

/-!
# Carrying calls to the gateway

A call goes through the breaker of its operation, and behind that is attempted as often as the
retry policy allows; so a call counts once for the breaker, however many attempts it took. A call
that must not be repeated has one attempt.
-/

namespace SecretBroker

/-- How calls are carried. -/
structure Transport where
  readTimeout : Duration := .ofSecs 5
  writeTimeout : Duration := .ofSecs 10
  retry : RetryPolicy := {}
  /-- What the client calls itself. -/
  agent : Option String := none
deriving DecidableEq, Repr

namespace Transport

/-- How long an attempt at a call may take. -/
def timeout (t : Transport) : Method → Duration
  | .get => t.readTimeout
  | .post => t.writeTimeout

/-- An answer that came: a response, or the news that the gateway is out of order. Some statuses
have no body. -/
def settled (c : Call) (status : Nat) (body : String) : Except GatewayError Response :=
  if 500 ≤ status then .error (.unavailable c.operation status)
  else .ok { status, body := if status = 204 ∨ status = 304 then "" else body }

/-- The text for a request without an answer. -/
def sendingText (url : String) : String := "error sending request for url (" ++ url ++ ")"

/-- One attempt at a call. -/
def attempt (t : Transport) (c : Call) : Exchange (Except GatewayError Response) := do
  let request := c.request t.agent
  let failed (text : String) (causes : List String) : Except GatewayError Response :=
    .error (.transport c.operation { text, causes })
  let late : Exchange (Except GatewayError Response) := do
    Exchange.wait (t.timeout c.method)
    return .error (.timeout c.operation c.timeoutText)
  if !request.url.isHttp then
    return failed ("builder error for url (" ++ request.url.text ++ ")") ["URL scheme is not allowed"]
  match ← Exchange.send request with
  | .answer status body delay =>
    if t.timeout c.method < delay then late
    else
      Exchange.wait delay
      return settled c status body
  | .silence => late
  | .lost => return failed (sendingText request.url.textWithoutFragment) []
  | .brokenOff => return failed "error decoding response body" []
  | .unreachable causes => return failed (sendingText request.url.text) causes

/-- Carries a call to the gateway. -/
def execute (t : Transport) (c : Call) : Exchange (Except GatewayError Response) :=
  Exchange.guarded c.operation
    ((if c.repeatable then t.retry else .once).execute (t.attempt c) Exchange.wait Exchange.draw)

end Transport
end SecretBroker
