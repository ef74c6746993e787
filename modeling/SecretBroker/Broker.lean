import SecretBroker.Cache
import SecretBroker.Gateway.Resolution

/-!
# The broker

The broker hands out the signing secrets of consumers. It looks into its cache first, then asks the
gateway; what it learns it keeps. It also has new credentials made, and reports on the gateway's
health. A consumer or credential that does not exist is an answer, not an error.
-/

namespace SecretBroker

namespace Broker

/-- What changes while a broker works. -/
structure State where
  cache : Cache := {}
  session : Session := {}

/-- Something that a broker does; without a result when it was abandoned. -/
abbrev Task := OptionT (StateM State)

/-- A task that may end in an error. -/
abbrev Attempt := ExceptT GatewayError Task

/-- Something done in the broker's session. -/
def inSession {α : Type} (x : Exchange α) : Task α := fun s =>
  let (a, session) := x s.session
  (a, { s with session })

/-- Something asked of the gateway in the broker's session. -/
def asking {α : Type} (x : Inquiry α) : Attempt α := ExceptT.mk (inSession x.run)

/-- The time. -/
def now : Task Instant := return (← get).session.now

/-- The cached secret of a consumer. -/
def cached (id : String) : Task (Option ConsumerSecret) := fun s =>
  let (found, cache) := s.cache.get id s.session.now
  (some found, { s with cache })

/-- Keeps the secret of a consumer, if it has one. -/
def keep (id : String) (secret : Option ConsumerSecret) : Task Unit :=
  modify fun s =>
    match secret with
    | some secret => { s with cache := s.cache.set id secret none s.session.now }
    | none => s

end Broker

/-- A broker in front of one gateway. -/
structure Broker where
  gateway : Gateway
deriving DecidableEq, Repr

namespace Broker

/-- The response to a call. -/
def ask (b : Broker) (call : Except GatewayError Call) : Attempt Response := do
  asking (b.gateway.ask (← call))

/-- The URL of the credentials of a consumer. -/
def credentialsUrl (b : Broker) (consumer : String) : Except GatewayError Url :=
  b.gateway.access.credentialsUrl b.gateway.access.base consumer

/-- The secret in a response to a question for credentials. -/
def secretIn (r : Response) : Except GatewayError (Option ConsumerSecret) :=
  if r.status = 404 then .ok none
  else if r.isSuccess then
    (r.decode Operation.secretGet.name CredentialList.reader).map CredentialList.first?
  else .error (r.unexpected Operation.secretGet.name)

/-- The secret of a consumer as the gateway has it. -/
def fetch (b : Broker) (id : String) : Attempt (Option ConsumerSecret) := do
  match ← asking (b.gateway.resolve id) with
  | none => return none
  | some consumer =>
    let r ← b.ask (b.gateway.reading .secretGet (b.credentialsUrl consumer)
      ("Timeout fetching secret for consumer: " ++ id))
    let secret ← secretIn r
    keep id secret
    return secret

/-- The secret of a consumer, if there is such a consumer and it has one. -/
def get (b : Broker) (id : String) : Attempt (Option ConsumerSecret) := do
  match ← cached id with
  | some secret => return some secret
  | none => b.fetch id

/-- The secret in a response to the creation of a credential for a consumer, who is its owner unless
the response names another. -/
def createdIn (r : Response) (consumer : String) : Except GatewayError (Option ConsumerSecret) :=
  if r.status = 404 then .ok none
  else if r.isSuccess then
    (r.decode Operation.secretCreate.name ConsumerSecret.reader).map fun s =>
      some { s with owner := some (s.owner.getD consumer) }
  else .error (r.unexpected Operation.secretCreate.name)

/-- Has a fresh credential made the consumer's, if there is such a consumer. The gateway is asked
once only, for it may have heard what it did not answer. -/
def create (b : Broker) (id : String) (fresh : NewCredential) : Attempt (Option ConsumerSecret) := do
  match ← asking (b.gateway.resolve id) with
  | none => return none
  | some consumer =>
    let r ← b.ask (b.gateway.writing .secretCreate (b.credentialsUrl consumer) fresh.toJson
      ("Timeout creating secret for consumer: " ++ id) false)
    let secret ← createdIn r consumer
    keep id secret
    return secret

/-- What a status tells about the health of a gateway. -/
def statusText (status : Nat) : String :=
  match status with
  | 401 => "Authentication failed: check the gateway token"
  | 403 => "Permission denied: token lacks access to the gateway admin API"
  | 404 => "Endpoint not found: check the gateway URL configuration"
  | other => "HTTP " ++ toString other

/-- What is wrong with the gateway, after a call that asks for no more than its health. -/
def ailment? : Except GatewayError Response → Option String
  | .ok r => if r.isSuccess then none else some (statusText r.status)
  | .error (.unavailable _ status) => some (statusText status)
  | .error e => some e.message

/-- The health of the gateway, and how long it took to learn it. -/
def health (b : Broker) : Task Health := do
  let start ← now
  let url := b.gateway.access.healthUrl b.gateway.access.base
  let r ← (b.ask (b.gateway.reading .healthCheck url "Timeout checking gateway health")).run
  let error := ailment? r
  return { healthy := error.isNone, responseMillis := ((← now) - start) / nanosPerMilli, error }

/-- The gateway's mode. -/
def mode (b : Broker) : GatewayMode := b.gateway.access.mode

/-- Forgets the secret of a consumer or, for none, all secrets. -/
def State.clear (s : State) (id : Option String) : State :=
  { s with cache := match id with
    | some id => s.cache.delete id
    | none => s.cache.clear }

/-- The named breaker as new, and whether there is one. -/
def State.reset (s : State) (operation : String) : Bool × State :=
  let (known, breakers) := s.session.breakers.reset operation
  (known, { s with session.breakers := breakers })

/-- Every breaker as new. -/
def State.resetAll (s : State) : State :=
  { s with session.breakers := s.session.breakers.resetAll }

/-- The name by which the broker's own client goes. -/
def agent : String := "token-issuer/0.1.0"

/-- The broker for a gateway, whose calls are repeated by a policy; there must be settings for the
gateway. -/
def ofGateway (gateway : Option GatewaySettings) (retry : RetryPolicy) (agent : Option String) :
    Except GatewayError Broker := do
  match gateway with
  | none => .error (.configuration "Gateway configuration is required")
  | some g =>
    let access ← Access.ofSettings g
    return { gateway := { access, transport := {
      readTimeout := g.readTimeout, writeTimeout := g.writeTimeout, retry, agent } } }

/-- How calls are repeated under these settings. -/
def retryPolicy (r : ResilienceSettings) : RetryPolicy where
  maxAttempts := r.maxAttempts
  baseDelay := r.baseDelay

/-- When breakers open under these settings. -/
def breakerPolicy (r : ResilienceSettings) : Breaker.Policy where
  threshold := r.failureThreshold
  resetTimeout := r.resetTimeout

/-- The broker that settings ask for. -/
def ofSettings (s : Settings) : Except GatewayError Broker :=
  ofGateway (some s.gateway) (retryPolicy s.resilience) (some agent)

/-- The state in which a broker begins under settings. -/
def State.start (s : Settings) : State where
  cache := { policy := s.cache }
  session := { breakers := { policy := breakerPolicy s.resilience } }

end Broker
end SecretBroker
