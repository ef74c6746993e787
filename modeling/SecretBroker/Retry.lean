import SecretBroker.Decimal.Binary64
import SecretBroker.Duration
import SecretBroker.Gateway.Error

/-!
# Retries

A call is repeated while its attempts end in nothing definite and attempts are left, with a delay
after each that grows by the base delay and stops at the longest one. A policy with jitter leaves it
to chance how far a delay strays from that, also beyond the longest one. What an attempt is, what is
drawn by chance, and how the time between attempts passes, is for the monad to say.
-/

-- The larger and the smaller of two rational numbers are those of the core library, too.
attribute [instance (high)] Rat.instMax Rat.instMin

namespace SecretBroker

open Decimal.Binary64 (nearest)

/-- What chance makes of a delay, from the shortest to the longest that it may be. -/
structure Draw where
  value : Rat
  lower : -1 ≤ value
  upper : value ≤ 1

namespace Draw

/-- The draw that leaves a delay where it is. -/
def middle : Draw := ⟨0, by decide, by decide⟩

/-- The draw that makes a delay as long as it may be. -/
def greatest : Draw := ⟨1, by decide, by decide⟩

end Draw

/-- How often a call is tried, and how long it waits in between. -/
structure RetryPolicy where
  /-- Attempts in all, the first included; none means one. -/
  maxAttempts : Nat := 2
  baseDelay : Duration := .ofMillis 100
  maxDelay : Duration := .ofSecs 2
  /-- How far a delay may stray, as a part of it. -/
  jitter : Rat := 0
deriving DecidableEq, Repr

namespace RetryPolicy

/-- The policy of one attempt only. -/
def once : RetryPolicy := { maxAttempts := 1 }

/-- The delay before the retry of this number, counted from one, before any jitter. -/
def steadyDelay (p : RetryPolicy) (retry : Nat) : Duration :=
  min (p.baseDelay.saturatingMul (max retry 1)) p.maxDelay

/-- The delay before the retry of this number. With jitter it strays from the steady one, in whole
milliseconds, by the `draw` between `-1` and `1` times the jitter's part of it; that is computed in
binary floating point. -/
def delay (p : RetryPolicy) (retry : Nat) (draw : Rat := 0) : Duration :=
  let steady := p.steadyDelay retry
  if p.jitter ≤ 0 then steady
  else
    let millis := nearest steady.toMillis
    let range := nearest (millis * min p.jitter 1)
    let strayed := nearest (millis + nearest (range * draw))
    .ofMillis (min (max 0 strayed).floor.toNat (2 ^ 64 - 1))

section
variable {m : Type → Type} [Monad m] {α : Type}

/-- Lets the delay before the retry of this number pass. -/
def rest (p : RetryPolicy) (pause : Duration → m Unit) (draw : m Draw) (retry : Nat) : m Unit := do
  let d ← draw
  pause (p.delay retry d.value)

/-- Attempt number `n` and, while `left` allows, those after it. -/
def attemptFrom (p : RetryPolicy) (attempt : m (Except GatewayError α)) (pause : Duration → m Unit)
    (draw : m Draw) : (left n : Nat) → m (Except GatewayError α)
  | 0, _ => attempt
  | left + 1, n => do
    match ← attempt with
    | .ok a => return .ok a
    | .error e =>
      if e.isRetryable then
        p.rest pause draw n
        attemptFrom p attempt pause draw left (n + 1)
      else return .error e

/-- Attempts until one ends in something definite or none is left; the last one's result. -/
def execute (p : RetryPolicy) (attempt : m (Except GatewayError α)) (pause : Duration → m Unit)
    (draw : m Draw := pure .middle) : m (Except GatewayError α) :=
  p.attemptFrom attempt pause draw (max p.maxAttempts 1 - 1) 1

end
end RetryPolicy
end SecretBroker
