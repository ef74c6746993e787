import Mathlib.Tactic.Common
import SecretBroker.Breaker.Registry

/-!
# What one call adds to the count

A call that is turned away leaves the registry as it is (`eq_of_enter_none`). One that goes through
adds one to the count of its breaker if it fails, whatever happened in the meantime, and nothing
otherwise (`failures_of_settle`).
-/

namespace SecretBroker.Breaker

theorem fail_failures (p : Policy) (now : Instant) (t : Ticket) (b : Breaker) :
    (b.fail p now t).failures = min (b.failures + 1) countLimit := by
  unfold fail
  dsimp only
  split
  · split <;> rfl
  · rfl
  · rfl

theorem succeed_failures_le (t : Ticket) (b : Breaker) : (b.succeed t).failures ≤ b.failures := by
  unfold succeed
  split
  · exact Nat.zero_le _
  · exact Nat.zero_le _
  · exact Nat.le_refl _

theorem failures_of_enter {p : Policy} {now : Instant} {b b' : Breaker} {t : Ticket}
    (h : b.enter p now = some (t, b')) : b'.failures = b.failures := by
  rcases of_enter h with ⟨-, rfl⟩ | ⟨-, -, rfl⟩
  · rfl
  · rfl

namespace Registry

variable {r r' : Registry} {name : String} {now : Instant} {t : Ticket}

/-- Only a breaker that has been used turns a call away, so turning it away makes none. -/
theorem eq_of_enter_none (h : r.enter name now = (none, r')) : r' = r := by
  rcases hf : r.find? name with _ | b
  · have hg : r.get name = {} := by rw [get, hf, Option.getD_none]
    simp only [enter, hg, enter_of_closed (rfl : ({} : Breaker).phase = .closed)] at h
    cases h
  · rcases he : b.enter r.policy now with _ | ⟨t, b'⟩
    · rw [enter_of_none hf he] at h
      cases h
      rfl
    · simp only [enter, get_of_find? hf, he] at h
      cases h

theorem failures_of_enter (h : r.enter name now = (some t, r')) :
    (r'.get name).failures = (r.get name).failures := by
  obtain ⟨b, he, rfl⟩ := of_enter_some h
  rw [get_set, Breaker.failures_of_enter he]

/-- A call that went through counts once: a failure adds one, and a success adds nothing. -/
theorem failures_of_settle (h : r.enter name now = (some t, r')) (after : Instant) (v : Verdict) :
    (v = .failure → ((r'.settle name after t v).get name).failures
      = min ((r.get name).failures + 1) countLimit)
    ∧ (v = .success → ((r'.settle name after t v).get name).failures
      ≤ (r.get name).failures) := by
  have hf := failures_of_enter h
  rw [settle, get_set]
  constructor
  · rintro rfl
    rw [Breaker.settle, fail_failures, hf]
  · rintro rfl
    rw [Breaker.settle, ← hf]
    exact succeed_failures_le _ _

end Registry
end SecretBroker.Breaker
