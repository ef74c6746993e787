import SecretBroker.Breaker.Registry

/-!
# Calls in flight

Guarded calls that take time: each begins under a label, and later returns or is abandoned. A call
that was turned away leaves no label.
-/

namespace SecretBroker.Breaker

/-- A registry and the calls that went through and have not settled: label, operation, ticket. -/
structure Flight where
  registry : Registry := {}
  pending : List (String × String × Ticket) := []
deriving DecidableEq, Repr

namespace Flight

/-- A call of `operation` begins under `label`; whether it went through. -/
def start (f : Flight) (label operation : String) (now : Instant) : Bool × Flight :=
  match f.registry.enter operation now with
  | (none, r) => (false, { f with registry := r })
  | (some t, r) =>
    (true, { registry := r, pending := (label, operation, t) :: f.pending })

/-- The labelled call settles; whether there was one. -/
def finish (f : Flight) (label : String) (now : Instant) (v : Verdict) : Bool × Flight :=
  match f.pending.lookup label with
  | none => (false, f)
  | some (operation, t) =>
    (true, { registry := f.registry.settle operation now t v
             pending := f.pending.eraseP (·.1 == label) })

/-- The labelled call is abandoned, which counts as a failure; whether there was one. -/
def abandon (f : Flight) (label : String) (now : Instant) : Bool × Flight :=
  f.finish label now .failure

end Flight
end SecretBroker.Breaker
