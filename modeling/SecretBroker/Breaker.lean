import SecretBroker.Duration
import SecretBroker.Gateway.Error

/-!
# Circuit breakers

A breaker stands before one operation. Closed, it lets every call through and counts the failures
in a row; at the threshold it opens and turns calls away until the reset timeout has passed since
the last failure. Then one call goes through on trial, and its verdict closes the breaker or opens
it again.

Time is the instant handed to each operation. A call that went through holds a `Ticket` until it
settles; an abandoned call settles as a failure.
-/

namespace SecretBroker

/-- Nanoseconds since the program began. -/
abbrev Instant := Nat

namespace Breaker

/-- When a breaker opens, and for how long. -/
structure Policy where
  threshold : Nat := 5
  resetTimeout : Duration := .ofSecs 30
deriving DecidableEq, Repr

inductive Phase where
  | closed
  | opened
  | halfOpen
deriving DecidableEq, Repr

/-- The phase's name in reports. -/
def Phase.name : Phase → String
  | .closed => "closed"
  | .opened => "open"
  | .halfOpen => "half_open"

/-- How a call got through. -/
inductive Ticket where
  | normal
  | trial
deriving DecidableEq, Repr

/-- What a settled call says about the gateway. -/
inductive Verdict where
  | success
  | failure
deriving DecidableEq, Repr

/-- The verdict of a result: an error that tells nothing against the gateway is a success, for the
gateway answered. -/
def Verdict.of {α : Type} : Except GatewayError α → Verdict
  | .error e => if e.countsAsFailure then .failure else .success
  | .ok _ => .success

/-- Where the failure count stops. -/
def countLimit : Nat := 2 ^ 32 - 1

end Breaker

open Breaker in
/-- The state of one breaker. -/
structure Breaker where
  phase : Phase := .closed
  /-- Failures since the last success that counted. -/
  failures : Nat := 0
  /-- The instant of the last failure or forced opening. -/
  lastFailure : Option Instant := none
  /-- Whether the half-open breaker's trial is still out. -/
  trialOut : Bool := false
deriving DecidableEq, Repr

namespace Breaker

/-- Whether a trial may start: no failure is on record, or the timeout has passed since. -/
def resetDue (p : Policy) (now : Instant) (b : Breaker) : Bool :=
  match b.lastFailure with
  | none => true
  | some at_ => p.resetTimeout.toNanos ≤ now - at_

/-- A call asks to go through: its ticket and the breaker after it, or nothing when it is turned
away and the breaker stays as it is. -/
def enter (p : Policy) (now : Instant) (b : Breaker) : Option (Ticket × Breaker) :=
  match b.phase with
  | .closed => some (.normal, b)
  | .opened =>
    if b.resetDue p now then some (.trial, { b with phase := .halfOpen, trialOut := true })
    else none
  | .halfOpen => if b.trialOut then none else some (.trial, { b with trialOut := true })

/-- A call with this ticket succeeded. Late news of a call from an earlier phase change nothing. -/
def succeed (t : Ticket) (b : Breaker) : Breaker :=
  match b.phase, t with
  | .halfOpen, .trial => { b with phase := .closed, failures := 0, trialOut := false }
  | .closed, _ => { b with failures := 0 }
  | _, _ => b

/-- A call with this ticket failed. Every failure counts and restarts the timer; only the one that
reaches the threshold, or the trial's, changes the phase. -/
def fail (p : Policy) (now : Instant) (t : Ticket) (b : Breaker) : Breaker :=
  let counted := { b with failures := min (b.failures + 1) countLimit, lastFailure := some now }
  match b.phase, t with
  | .closed, _ =>
    if max p.threshold 1 ≤ counted.failures then { counted with phase := .opened } else counted
  | .halfOpen, .trial => { counted with phase := .opened, trialOut := false }
  | _, _ => counted

/-- A call hands its ticket back with a verdict. -/
def settle (p : Policy) (now : Instant) (t : Ticket) (v : Verdict) (b : Breaker) : Breaker :=
  match v with
  | .success => b.succeed t
  | .failure => b.fail p now t

/-- The breaker as new. -/
def reset (_ : Breaker) : Breaker := {}

/-- The breaker opened by hand, as if a failure had happened now; the count stays. -/
def forceOpen (now : Instant) (b : Breaker) : Breaker :=
  { b with phase := .opened, lastFailure := some now, trialOut := false }

section
variable {p : Policy} {now : Instant} {b : Breaker} {t : Ticket} {v : Verdict}

theorem resetDue_of_lastFailure {f : Instant} (h : b.lastFailure = some f) :
    b.resetDue p now = true ↔ p.resetTimeout.toNanos ≤ now - f := by
  simp only [resetDue, h, decide_eq_true_eq]

theorem enter_of_closed (h : b.phase = .closed) : b.enter p now = some (.normal, b) := by
  simp only [enter, h]

theorem enter_of_due (h : b.phase = .opened) (hd : b.resetDue p now = true) :
    b.enter p now = some (.trial, { b with phase := .halfOpen, trialOut := true }) := by
  simp only [enter, h, hd, ↓reduceIte]

theorem enter_of_not_due (h : b.phase = .opened) (hd : ¬ b.resetDue p now = true) :
    b.enter p now = none := by
  simp only [enter, h, hd, Bool.false_eq_true, ↓reduceIte]

theorem enter_of_trialOut (h : b.phase = .halfOpen) (ht : b.trialOut = true) :
    b.enter p now = none := by
  simp only [enter, h, ht, ↓reduceIte]

/-- A call goes through a closed breaker as it is, and on trial through one that it finds or makes
half open. -/
theorem of_enter {b' : Breaker} (h : b.enter p now = some (t, b')) :
    (b.phase = .closed ∧ b' = b)
    ∨ (b.phase ≠ .closed ∧ t = .trial ∧ b' = { b with phase := .halfOpen, trialOut := true }) := by
  unfold enter at h
  split at h
  · rename_i hp
    cases h
    exact .inl ⟨hp, rfl⟩
  · rename_i hp
    split at h
    · cases h
      exact .inr ⟨by simp [hp], rfl, rfl⟩
    · cases h
  · rename_i hp
    split at h
    · cases h
    · cases h
      exact .inr ⟨by simp [hp], rfl, by rw [← hp]⟩

/-- Every failure restarts the timer, and nothing else that settles does. -/
theorem settle_lastFailure :
    (b.settle p now t v).lastFailure = if v = .failure then some now else b.lastFailure := by
  rcases v with _ | _
  · simp only [settle, succeed, reduceCtorEq, ↓reduceIte]
    split <;> rfl
  · simp only [settle, fail, ↓reduceIte]
    split
    · split <;> rfl
    · rfl
    · rfl

theorem settle_trialOut :
    (b.settle p now t v).trialOut
      = if b.phase = .halfOpen ∧ t = .trial then false else b.trialOut := by
  rcases v with _ | _
  · simp only [settle, succeed]
    split
    · simp_all
    · simp_all
    · rename_i hn
      rw [if_neg fun h => hn h.1 h.2]
  · simp only [settle, fail]
    split
    · split <;> simp_all
    · simp_all
    · rename_i hn
      rw [if_neg fun h => hn h.1 h.2]

theorem settle_failures_of_closed (h : b.phase = .closed) :
    (b.settle p now t v).failures
      = if v = .failure then min (b.failures + 1) countLimit else 0 := by
  rcases v with _ | _
  · simp [settle, succeed, h]
  · simp only [settle, fail, h, ↓reduceIte]
    split <;> rfl

theorem settle_phase_of_closed (h : b.phase = .closed) :
    (b.settle p now t v).phase
      = if v = .failure ∧ max p.threshold 1 ≤ min (b.failures + 1) countLimit then .opened
        else .closed := by
  rcases v with _ | _
  · simp [settle, succeed, h]
  · simp only [settle, fail, h, true_and]
    split <;> simp_all

/-- A trial's verdict decides a half-open breaker. -/
theorem settle_of_halfOpen (h : b.phase = .halfOpen) :
    b.settle p now .trial v = match v with
      | .success => { b with phase := .closed, failures := 0, trialOut := false }
      | .failure =>
        { b with phase := .opened, failures := min (b.failures + 1) countLimit
                 lastFailure := some now, trialOut := false } := by
  rcases v with _ | _ <;> simp only [settle, succeed, fail, h]

/-- Late news of a call that is not the half-open breaker's trial change no phase. -/
theorem settle_phase_of_late (hc : b.phase ≠ .closed) (ht : b.phase = .halfOpen → t = .normal) :
    (b.settle p now t v).phase = b.phase := by
  rcases v with _ | _
  · simp only [settle, succeed]
    split <;> simp_all
  · simp only [settle, fail]
    split <;> simp_all

end
end Breaker
end SecretBroker
