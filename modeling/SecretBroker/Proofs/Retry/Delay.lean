import Mathlib.Algebra.BigOperators.Intervals
import Mathlib.Tactic.Ring
import SecretBroker.Proofs.Decimal.Rounding
import SecretBroker.Retry

/-!
# Delays in exact numbers

The delay before a retry, computed with seconds and nanoseconds that stop at the longest span, is
the number of the retry times the base delay, or the longest delay where that is less: what does not
fit into a span lies beyond every longest delay (`toNanos_steadyDelay`). A span is known by its
nanoseconds (`toNanos_injective`), so without jitter the delay is the span that numbers without end
would give (`delay_exact`), and `attempts` attempts at a call have `RetryPolicy.pauses` of time
between them. With jitter chance has a say: a delay is up to twice as long as it would be without
(`toNanos_delay_le`), as the rounding of its milliseconds does not go past that. What is asked of a
policy where times are bounded is a ceiling for each delay (`Under`, `exists_under`).
-/

namespace SecretBroker

namespace Duration

theorem toNanos_injective : Function.Injective toNanos := by
  rintro ⟨s, n, hs, hn⟩ ⟨s', n', hs', hn'⟩ h
  simp only [toNanos, nanosPerSecond] at h hn hn'
  obtain ⟨rfl, rfl⟩ : s = s' ∧ n = n' := by omega
  rfl

theorem toNanos_saturatingMul (d : Duration) (k : Nat) :
    (d.saturatingMul k).toNanos = min (k * d.toNanos) longest.toNanos := by
  have hk : d.secs * k * nanosPerSecond + d.nanos * k = k * d.toNanos := by
    unfold toNanos
    ring
  rw [saturatingMul, toNanos_ofParts, hk]

theorem toMillis_eq (d : Duration) : d.toMillis = d.toNanos / nanosPerMilli := by
  simp only [toMillis, toNanos, nanosPerSecond, nanosPerMilli]
  omega

theorem toNanos_ofMillis_le (ms : Nat) : (ofMillis ms).toNanos ≤ ms * nanosPerMilli := by
  rw [ofMillis, toNanos_ofParts]
  simp only [nanosPerSecond, nanosPerMilli]
  omega

end Duration

namespace RetryPolicy

variable (p : RetryPolicy)

/-- Without jitter so much time, in nanoseconds, lies between so many attempts at a call. -/
def pauses (attempts : Nat) : Nat :=
  ∑ i ∈ Finset.Ico 1 attempts, min (i * p.baseDelay.toNanos) p.maxDelay.toNanos

/-- No delay before a retry is longer than this many nanoseconds, whatever is drawn. -/
def Under (ceiling : Nat → Nat) : Prop :=
  ∀ retry (d : Draw), 0 < retry → (p.delay retry d.value).toNanos ≤ ceiling retry

theorem under_longest : p.Under fun _ => Duration.longest.toNanos :=
  fun _ _ _ => Duration.toNanos_le_longest _

theorem toNanos_steadyDelay (retry : Nat) : (p.steadyDelay retry).toNanos
    = min (max retry 1 * p.baseDelay.toNanos) p.maxDelay.toNanos := by
  have hl := p.maxDelay.toNanos_le_longest
  rw [steadyDelay, Duration.toNanos_min, Duration.toNanos_saturatingMul, Nat.min_assoc,
    Nat.min_eq_right hl]

theorem toMillis_steadyDelay_le (retry : Nat) :
    (p.steadyDelay retry).toMillis ≤ p.maxDelay.toMillis := by
  rw [Duration.toMillis_eq, Duration.toMillis_eq, toNanos_steadyDelay]
  exact Nat.div_le_div_right (Nat.min_le_right _ _)

open Decimal.Binary64 (nearest nearest_nonneg nearest_le)

theorem strayed_le {millis : Nat} (hm : millis ≤ 2 ^ 53) (share : Rat) (h0 : 0 ≤ share)
    (h1 : share ≤ 1) (d : Draw) :
    nearest (nearest millis + nearest (nearest (nearest millis * share) * d.value))
      ≤ (2 * millis : Nat) := by
  have hround {q : Rat} (h : q ≤ millis) : nearest q ≤ millis := by
    have hle := nearest_le (j := 0) hm (q := q)
    rw [Nat.pow_zero, Nat.mul_one] at hle
    exact hle h
  have hmillis : nearest millis ≤ millis := hround le_rfl
  have hpos : 0 ≤ nearest millis := nearest_nonneg (Nat.cast_nonneg _)
  have hrange : nearest (nearest millis * share) ≤ millis :=
    hround ((mul_le_of_le_one_right hpos h1).trans hmillis)
  have hoff : nearest (nearest (nearest millis * share) * d.value) ≤ millis :=
    hround ((mul_le_of_le_one_right (nearest_nonneg (mul_nonneg hpos h0)) d.upper).trans hrange)
  have htwice : 2 * millis = millis * 2 ^ 1 := Nat.mul_comm 2 millis
  rw [htwice]
  refine nearest_le hm ?_
  rw [← htwice, Nat.cast_mul, Nat.cast_ofNat, two_mul]
  exact add_le_add hmillis hoff

/-- No delay is longer than twice the steady one. -/
theorem toNanos_delay_le (hm : p.maxDelay.toMillis ≤ 2 ^ 53) (retry : Nat) (d : Draw) :
    (p.delay retry d.value).toNanos ≤ 2 * (p.steadyDelay retry).toNanos := by
  unfold delay
  dsimp only
  split
  · omega
  · rename_i hj
    have hle := strayed_le ((p.toMillis_steadyDelay_le retry).trans hm) (min p.jitter 1)
      (le_min (not_le.1 hj).le zero_le_one) (min_le_right _ _) d
    generalize nearest _ = strayed at hle ⊢
    have hfloor : (max 0 strayed).floor.toNat ≤ 2 * (p.steadyDelay retry).toMillis := by
      have hmax : ((max 0 strayed).floor : Rat) ≤ _ :=
        (Rat.floor_le _).trans (max_le (Nat.cast_nonneg _) hle)
      exact Int.toNat_le.2 (by exact_mod_cast hmax)
    have hms := Duration.toMillis_eq (p.steadyDelay retry)
    refine (Duration.toNanos_ofMillis_le _).trans ?_
    calc min (max 0 strayed).floor.toNat (2 ^ 64 - 1) * nanosPerMilli
        ≤ 2 * (p.steadyDelay retry).toMillis * nanosPerMilli :=
          Nat.mul_le_mul_right _ ((Nat.min_le_left _ _).trans hfloor)
      _ ≤ 2 * (p.steadyDelay retry).toNanos := by
          rw [hms, Nat.mul_assoc]
          exact Nat.mul_le_mul_left 2 (Nat.div_mul_le_self _ _)

section
variable {p} (hj : p.jitter ≤ 0)
include hj

theorem delay_of_noJitter (retry : Nat) (draw : Rat) :
    p.delay retry draw = p.steadyDelay retry := if_pos hj

theorem toNanos_delay (retry : Nat) (draw : Rat) : (p.delay retry draw).toNanos
    = min (max retry 1 * p.baseDelay.toNanos) p.maxDelay.toNanos := by
  rw [delay_of_noJitter hj, toNanos_steadyDelay]

theorem under_of_noJitter :
    p.Under fun retry => min (retry * p.baseDelay.toNanos) p.maxDelay.toNanos := by
  intro retry d hr
  rw [toNanos_delay hj, Nat.max_eq_left hr]

/-- Without jitter a delay has the nanoseconds of the base delay times the number of the retry, or
those of the longest delay where they are fewer, and that makes it the span it is: neither that the
product stops at the longest span nor how it was carried over can be told from it. So no delay is
longer than the longest, and a later one is no shorter. -/
theorem delay_exact (draw : Rat) :
    (∀ retry d, p.delay retry draw = d
      ↔ d.toNanos = min (max retry 1 * p.baseDelay.toNanos) p.maxDelay.toNanos)
    ∧ (∀ retry, p.delay retry draw ≤ p.maxDelay)
    ∧ ∀ m n, m ≤ n → p.delay m draw ≤ p.delay n draw := by
  refine ⟨fun retry d => ?_, fun retry => ?_, fun m n hmn => ?_⟩
  · rw [← toNanos_delay hj retry draw, Duration.toNanos_injective.eq_iff, eq_comm]
  · show (p.delay retry draw).toNanos ≤ p.maxDelay.toNanos
    rw [toNanos_delay hj]
    exact Nat.min_le_right _ _
  · have hle : max m 1 * p.baseDelay.toNanos ≤ max n 1 * p.baseDelay.toNanos :=
      Nat.mul_le_mul_right _ (by omega)
    show (p.delay m draw).toNanos ≤ (p.delay n draw).toNanos
    rw [toNanos_delay hj, toNanos_delay hj]
    omega

end

/-- What bounds the delays, whatever is drawn: without jitter it is what they are, and else no more
than twice that, if the longest delay has no more than 53 bits of milliseconds. -/
theorem exists_under : ∃ ceiling, p.Under ceiling
    ∧ (p.jitter ≤ 0 → ceiling = fun retry => min (retry * p.baseDelay.toNanos) p.maxDelay.toNanos)
    ∧ (p.maxDelay.toMillis ≤ 2 ^ 53 → ∀ retry, 0 < retry →
      ceiling retry ≤ 2 * min (retry * p.baseDelay.toNanos) p.maxDelay.toNanos) := by
  by_cases hj : p.jitter ≤ 0
  · exact ⟨_, under_of_noJitter hj, fun _ => rfl, fun _ _ _ => Nat.le_mul_of_pos_left _ two_pos⟩
  by_cases hm : p.maxDelay.toMillis ≤ 2 ^ 53
  · refine ⟨fun retry => 2 * (p.steadyDelay retry).toNanos,
      fun retry d _ => p.toNanos_delay_le hm retry d, fun h => absurd h hj, fun _ retry hr => ?_⟩
    dsimp only
    rw [toNanos_steadyDelay, Nat.max_eq_left hr]
  · exact ⟨_, p.under_longest, fun h => absurd h hj, fun h => absurd h hm⟩

/-- Twice the base delay is one nanosecond less than the longest span. -/
def halfway : RetryPolicy where
  baseDelay := .ofParts (2 ^ 63 - 1) 999999999
  maxDelay := .longest

/-- The second retry carries a second over, and the third has more to wait than a span holds. -/
theorem delay_exact_halfway :
    (halfway.jitter ≤ 0 ∧ 2 ≤ 3)
    ∧ halfway.delay 2 = { secs := 2 ^ 64 - 1, nanos := 999999998 }
    ∧ halfway.delay 3 = .longest
    ∧ halfway.delay 3 ≤ halfway.maxDelay ∧ halfway.delay 2 ≤ halfway.delay 3 := by
  have hj : halfway.jitter ≤ 0 := by decide
  obtain ⟨hexact, hcap, hmono⟩ := delay_exact hj 0
  have h₂ : halfway.delay 2 = { secs := 2 ^ 64 - 1, nanos := 999999998 } :=
    (hexact 2 _).2 (by decide)
  have h₃ : halfway.delay 3 = .longest := (hexact 3 _).2 (by decide)
  exact ⟨⟨hj, by decide⟩, h₂, h₃, hcap 3, hmono 2 3 (by decide)⟩

end RetryPolicy
end SecretBroker
