import SecretBroker.Proofs.Breaker.Stale
import SecretBroker.Proofs.Breaker.Streak

/-!
# A breaker is never stuck

Whatever is done at a breaker, in any order, its fields agree with its phase. A half-open breaker is
waiting for the trial that made it half open, also when overtaken trials are out beside that one:
the trial has not settled, and however it settles, by its return or by being dropped, the half-open
phase ends (`halfOpen_decided`).
-/

namespace SecretBroker.Breaker

variable {α : Type}

section
variable {p : Policy}

/-- The own trial of a half-open phase is out, and its end is the end of the phase. -/
theorem settle_ownTrial {h : List (Move α)} (ho : (run p h).phase = .halfOpen) :
    ∃ o ∈ (run p h).trials, ownTrial p h = some o ∧ ∀ e : Ending α,
      (run p (.settle o e :: h)).phase = if e.isFailure = true then .opened else .closed := by
  obtain ⟨o, hmem, hown, -⟩ := ownTrial_out h ho
  exact ⟨o, hmem, hown, settle_trial_phase ho hmem⟩

variable (p)

/-- At any time, a trial is on record exactly while the breaker is half open, a breaker that is not
closed has its latest failure on record, a closed one is below its threshold, and a half-open one
has the trial out that decides it. -/
theorem halfOpen_decided (h : List (Move α)) :
    ((run p h).breaker.trialOut = true ↔ (run p h).phase = .halfOpen)
    ∧ ((run p h).phase ≠ .closed →
      ∃ f ≤ (run p h).now, (run p h).breaker.lastFailure = some f)
    ∧ ((run p h).phase = .closed → (run p h).breaker.failures < max 1 p.threshold)
    ∧ ((run p h).phase = .halfOpen →
      ∃ o ∈ (run p h).trials, ownTrial p h = some o ∧ ∀ e : Ending α,
        (run p (.settle o e :: h)).phase = if e.isFailure = true then .opened else .closed) := by
  refine ⟨trialOut_iff p h, fun hc => ?_, failures_lt_threshold h, settle_ownTrial⟩
  obtain ⟨f, hf, -, hl⟩ := lastFailure_eq_lastBlow h hc
  exact ⟨f, hf, hl⟩

/-- Beside an overtaken trial, a half-open breaker waits for its own. -/
example : (run { threshold := 1, resetTimeout := .ofSecs 1 } twoTrials).phase = .halfOpen
    ∧ ownTrial { threshold := 1, resetTimeout := .ofSecs 1 } twoTrials = some ⟨1, .trial⟩ := by
  decide

end
end SecretBroker.Breaker
