import SecretBroker.Breaker
import SecretBroker.Duration.Short
import SecretBroker.Text.Quoted

/-!
# Inspecting a breaker

The one-line text of a breaker for logs: its operation, its policy and its phase.
-/

namespace SecretBroker.Breaker

/-- The word for a phase in an inspection text. -/
def Phase.word : Phase → String
  | .closed => "Closed"
  | .opened => "Open"
  | .halfOpen => "HalfOpen"

/-- The inspection text of the breaker of `operation`. -/
def inspect (p : Policy) (operation : String) (b : Breaker) : String :=
  "CircuitBreaker \x7b name: " ++ Text.quoted operation
    ++ ", config: CircuitBreakerConfig \x7b failure_threshold: " ++ toString p.threshold
    ++ ", reset_timeout: " ++ p.resetTimeout.short ++ " \x7d, state: " ++ b.phase.word ++ " \x7d"

end SecretBroker.Breaker
