import Mathlib.Order.Bounds.Basic
import SecretBroker.Proofs.Retry.Delay

/-!
# Attempts at a call

Where the results of all attempts are laid out beforehand, the last attempt is the first whose
result is definite, or the last that is allowed (`execute_endsAt`). Its result is the call's, no
result behind it is asked for, and without jitter the time between the attempts is `pauses`.
-/

namespace SecretBroker.RetryPolicy

/-- Whether another attempt is of no use: there is a value, or an error that it would not mend. -/
def isDefinite {α : Type} : Except GatewayError α → Bool
  | .ok _ => true
  | .error e => !e.isRetryable

/-- The attempts made so far, and the nanoseconds waited between them. -/
structure Tally where
  attempts : Nat := 0
  waited : Nat := 0
deriving DecidableEq, Repr

/-- The attempts come to these results, the first of them under number one. -/
def Tally.attempt {α : Type} (results : Nat → Except GatewayError α) :
    StateM Tally (Except GatewayError α) :=
  fun s => (results (s.attempts + 1), { s with attempts := s.attempts + 1 })

def Tally.pause (span : Duration) : StateM Tally Unit :=
  modify fun s => { s with waited := s.waited + span.toNanos }

/-- What is drawn for the delay before a retry. -/
def Tally.draw (draws : Nat → Draw) : StateM Tally Draw := fun s => (draws s.attempts, s)

variable {p : RetryPolicy} {α : Type} (results : Nat → Except GatewayError α) (draws : Nat → Draw)

theorem attemptFrom_succ (left : Nat) (s : Tally) :
    p.attemptFrom (Tally.attempt results) Tally.pause (Tally.draw draws) (left + 1) (s.attempts + 1) s
      = if isDefinite (results (s.attempts + 1)) then
          (results (s.attempts + 1), { s with attempts := s.attempts + 1 })
        else p.attemptFrom (Tally.attempt results) Tally.pause (Tally.draw draws) left
          (s.attempts + 1 + 1)
          { attempts := s.attempts + 1
            waited := s.waited
              + (p.delay (s.attempts + 1) (draws (s.attempts + 1)).value).toNanos } := by
  rw [attemptFrom]
  simp only [bind, StateT.bind, Tally.attempt]
  rcases results (s.attempts + 1) with e | a
  · rcases he : e.isRetryable with _ | _ <;> simp only [isDefinite, he] <;> rfl
  · rfl

/-- The induction is on the attempts that are left behind number `k + 1`. -/
theorem attemptFrom_endsAt (hj : p.jitter ≤ 0) : ∀ (left k waited : Nat), ∃ n,
    IsLeast {i | k < i ∧ (isDefinite (results i) = true ∨ i = k + left + 1)} n
      ∧ p.attemptFrom (Tally.attempt results) Tally.pause (Tally.draw draws) left (k + 1) ⟨k, waited⟩
        = (results n, ⟨n, waited
          + ∑ i ∈ Finset.Ico (k + 1) n, min (i * p.baseDelay.toNanos) p.maxDelay.toNanos⟩)
  | 0, k, waited => by
    refine ⟨k + 1, ⟨⟨k.lt_succ_self, .inr rfl⟩, fun i hi => hi.1⟩, ?_⟩
    rw [Finset.Ico_self, Finset.sum_empty]
    rfl
  | left + 1, k, waited => by
    rw [attemptFrom_succ results draws left ⟨k, waited⟩]
    by_cases hd : isDefinite (results (k + 1)) = true
    · refine ⟨k + 1, ⟨⟨k.lt_succ_self, .inl hd⟩, fun i hi => hi.1⟩, ?_⟩
      rw [if_pos hd, Finset.Ico_self, Finset.sum_empty]
      rfl
    obtain ⟨n, ⟨⟨hn, hlast⟩, hmin⟩, hrun⟩ := attemptFrom_endsAt hj left (k + 1)
      (waited + (p.delay (k + 1) (draws (k + 1)).value).toNanos)
    have hspan : (p.delay (k + 1) (draws (k + 1)).value).toNanos
        = min ((k + 1) * p.baseDelay.toNanos) p.maxDelay.toNanos := by
      rw [toNanos_delay hj, Nat.max_eq_left k.succ_pos]
    refine ⟨n, ⟨⟨by omega, hlast.imp_right fun h => by omega⟩, fun i hi => ?_⟩, ?_⟩
    · -- Attempt `k + 1` was neither definite nor the last one allowed.
      obtain ⟨hki, hi⟩ := hi
      have hne : i ≠ k + 1 := by
        rintro rfl
        rcases hi with hi | hi
        · exact hd hi
        · omega
      exact hmin ⟨by omega, hi.imp_right fun h => by omega⟩
    · rw [if_neg hd, hrun, Finset.sum_eq_sum_Ico_succ_bot hn, hspan, Nat.add_assoc]

/-- A call ends with the first of its attempts that comes to something definite, or the last that it
has, and with what that attempt came to. Without jitter it is all one what is drawn. -/
theorem execute_endsAt (hj : p.jitter ≤ 0) : ∃ n,
    IsLeast {i | 0 < i ∧ (isDefinite (results i) = true ∨ i = max p.maxAttempts 1)} n
      ∧ p.execute (Tally.attempt results) Tally.pause (Tally.draw draws) {}
        = (results n, { attempts := n, waited := p.pauses n }) := by
  obtain ⟨n, hn, hrun⟩ := attemptFrom_endsAt results draws hj (max p.maxAttempts 1 - 1) 0 0
  have hcap : 0 + (max p.maxAttempts 1 - 1) + 1 = max p.maxAttempts 1 := by omega
  rw [hcap] at hn
  refine ⟨n, hn, ?_⟩
  rw [Nat.zero_add, Nat.zero_add] at hrun
  exact hrun

/-- No answer in time to the first two attempts, a status that says enough to the third. -/
def outOfOrder : Nat → Except GatewayError Nat
  | 1 | 2 => .error (.timeout "thing_get" "Timeout")
  | 3 => .error (.unavailable "thing_get" 503)
  | n => .ok n

theorem execute_endsAt_third :
    ({ maxAttempts := 4, maxDelay := .ofMillis 150 } : RetryPolicy).jitter ≤ 0
    ∧ IsLeast {i | 0 < i ∧ (isDefinite (outOfOrder i) = true ∨ i = 4)} 3
    ∧ ({ maxAttempts := 4, maxDelay := .ofMillis 150 } : RetryPolicy).execute
        (Tally.attempt outOfOrder) Tally.pause (Tally.draw fun _ => .greatest) {}
      = (.error (.unavailable "thing_get" 503), { attempts := 3, waited := 250000000 }) := by
  have hj : ({ maxAttempts := 4, maxDelay := .ofMillis 150 } : RetryPolicy).jitter ≤ 0 := by decide
  have hthird : IsLeast {i | 0 < i ∧ (isDefinite (outOfOrder i) = true ∨ i = 4)} 3 := by
    refine ⟨⟨by decide, .inl rfl⟩, fun i ⟨hi, hd⟩ => ?_⟩
    by_contra hlt
    have h : i = 1 ∨ i = 2 := by omega
    rcases h with rfl | rfl <;> simp [outOfOrder, isDefinite, GatewayError.isRetryable] at hd
  obtain ⟨n, hn, hrun⟩ := execute_endsAt outOfOrder (fun _ => .greatest) hj
  obtain rfl : n = 3 := hn.unique hthird
  exact ⟨hj, hthird, hrun⟩

end SecretBroker.RetryPolicy
