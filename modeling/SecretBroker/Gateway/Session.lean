import SecretBroker.Breaker.Registry
import SecretBroker.Gateway.Call
import SecretBroker.Retry

/-!
# Sessions with the gateway

A session is what passes between the program and the gateway: the time, the breakers, what has been
sent, and what will come back. The gateway is known by its script, which says for each request in
turn what comes of it; when the script is used up, `later` says it. What chance will make of the
delays between attempts is laid out beforehand, too.

An `Exchange` is something done in a session. Whoever asked for it may walk away at the session's
deadline; then it ends there, without a result.
-/

namespace SecretBroker

/-- What comes of a request. An answer is known by its status and its body: it has no headers here,
so none leads elsewhere. That there is a connection no more, or none in the first place, is news at
once; the client's timeout then has no part in it. -/
inductive Arrival where
  /-- An answer, some time after the request. -/
  | answer (status : Nat) (body : String) (delay : Duration)
  /-- Nothing, or the start of an answer that never ends. -/
  | silence
  /-- The connection ends without an answer. -/
  | lost
  /-- The connection ends within the answer. -/
  | brokenOff
  /-- No connection can be made. -/
  | unreachable (causes : List String)
deriving DecidableEq, Repr

structure Session where
  now : Instant := 0
  /-- When the one who waits walks away. -/
  deadline : Option Instant := none
  breakers : Breaker.Registry := {}
  script : List (Request → Arrival) := []
  later : Request → Arrival := fun _ => .answer 404 "" .zero
  /-- What is drawn for the delays to come, one after the other. -/
  draws : Nat → Draw := fun _ => .middle
  /-- What has been sent, in order. -/
  sent : List Request := []

/-- Something done in a session; without a result when it was abandoned. -/
abbrev Exchange := OptionT (StateM Session)

namespace Exchange

/-- Lets time pass. What would take longer than the deadline is abandoned there. -/
def wait (span : Duration) : Exchange Unit := fun s =>
  let after := s.now + span.toNanos
  match s.deadline with
  | some t => if t < after then (none, { s with now := max s.now t }) else (some (), { s with now := after })
  | none => (some (), { s with now := after })

/-- Draws by chance. -/
def draw : Exchange Draw := fun s =>
  (some (s.draws 0), { s with draws := fun i => s.draws (i + 1) })

/-- Sends a request, if a connection can be made; what comes of it. -/
def send (r : Request) : Exchange Arrival := fun s =>
  let (arrival, script) := match s.script with
    | [] => (s.later r, [])
    | a :: rest => (a r, rest)
  let sent := match arrival with
    | .unreachable _ => s.sent
    | _ => s.sent ++ [r]
  (some arrival, { s with script, sent })

/-- Something guarded by the breaker of an operation. If it is abandoned, that counts as a
failure. -/
def guarded {α : Type} (operation : String) (body : Exchange (Except GatewayError α)) :
    Exchange (Except GatewayError α) := fun s =>
  match s.breakers.enter operation s.now with
  | (none, breakers) => (some (.error (.circuitOpen operation)), { s with breakers })
  | (some ticket, breakers) =>
    let settle (v : Breaker.Verdict) (s : Session) : Session :=
      { s with breakers := s.breakers.settle operation s.now ticket v }
    match body { s with breakers } with
    | (some result, s) => (some result, settle (.of result) s)
    | (none, s) => (none, settle .failure s)

end Exchange
end SecretBroker
