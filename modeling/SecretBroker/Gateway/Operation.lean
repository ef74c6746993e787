/-!
# Operations at the gateway

The kinds of calls that the broker makes. Each kind has a circuit breaker of its own, known by the
operation's name.
-/

namespace SecretBroker

inductive Operation where
  | healthCheck
  | secretGet
  | secretCreate
  | realmCheck
  | realmCreate
  | consumerResolve
  | consumerSearch
deriving DecidableEq, Repr

/-- The name by which errors and breakers know the operation. -/
def Operation.name : Operation → String
  | .healthCheck => "health_check"
  | .secretGet => "consumer_secret_get"
  | .secretCreate => "consumer_secret_create"
  | .realmCheck => "realm_check"
  | .realmCreate => "realm_create"
  | .consumerResolve => "consumer_resolve"
  | .consumerSearch => "consumer_search"

end SecretBroker
