import Mathlib.Tactic.Common
import SecretBroker.Proofs.Breaker.Traffic

/-!
# What opens a closed breaker

`streak` reads off a history how many calls failed in a row. While the breaker is closed its count is
that number (`failures_eq_streak`), whatever calls from earlier phases still settle, so it opens at
the failure that makes the streak long enough, or by hand, and at nothing else (`opens_iff`).
-/

namespace SecretBroker.Breaker

variable {α : Type}

section
variable (p : Policy)

/-- The move `m` after `past` makes the breaker closed: it was not, or it is made as new. -/
def Closes (past : List (Move α)) (m : Move α) : Prop :=
  (run p (m :: past)).phase = .closed ∧ ((run p past).phase = .closed → m.isReset = true)

instance (past : List (Move α)) (m : Move α) : Decidable (Closes p past m) :=
  inferInstanceAs (Decidable (_ ∧ (_ → _)))

/-- How many calls failed since the last one that succeeded, and since the breaker last became
closed. -/
def streak : List (Move α) → Nat
  | [] => 0
  | m :: past =>
    if Closes p past m ∨ (run p past).succeeds m then 0
    else if (run p past).fails m then streak past + 1
    else streak past

variable {p}

theorem not_closes {past : List (Move α)} {m : Move α} (hc : (run p past).phase = .closed)
    (hm : m.isReset = false) : ¬ Closes p past m := by
  rintro ⟨-, h⟩
  rw [h hc] at hm
  cases hm

theorem streak_of_closes {past : List (Move α)} {m : Move α} (h : Closes p past m) :
    streak p (m :: past) = 0 := by
  rw [streak, if_pos (.inl h)]

theorem streak_settle {past : List (Move α)} {q : Permit} (e : Ending α)
    (hc : (run p past).phase = .closed) (hq : q ∈ (run p past).out) :
    streak p (.settle q e :: past) = if e.isFailure = true then streak p past + 1 else 0 := by
  have hn := not_closes (m := .settle q e) hc rfl
  by_cases hf : e.isFailure = true
  · simp [streak, hn, Traffic.succeeds, Traffic.fails, hq, hf]
  · simp [streak, Traffic.succeeds, hq, hf]

theorem streak_of_not_settled {past : List (Move α)} {m : Move α} (hc : ¬ Closes p past m)
    (hs : (run p past).succeeds m = false) (hf : (run p past).fails m = false) :
    streak p (m :: past) = streak p past := by
  simp [streak, hc, hs, hf]

/-- The breaker becomes closed by a reset and by the success of a half-open breaker's trial. -/
theorem closes_iff {past : List (Move α)} {m : Move α} :
    Closes p past m ↔ m.isReset = true ∨ ∃ q e, m = .settle q e ∧ q ∈ (run p past).out
      ∧ q.ticket = .trial ∧ (run p past).phase = .halfOpen ∧ e.isFailure = false := by
  constructor
  · rintro ⟨hc, hb⟩
    rw [run_cons] at hc
    rcases m with _ | ⟨q, e⟩ | span | _ | _
    · rcases attempt_cases p α (trialOut_iff p past) with ⟨hp, -⟩ | ⟨-, -, hs⟩ | ⟨-, -, hs⟩
      · cases hb hp
      · rw [hs] at hc
        cases hc
      · rw [step_attempt_of_none p hs] at hc
        cases hb hc
    · by_cases hq : q ∈ (run p past).out
      · rw [step_settle p hq] at hc
        rcases settle_cases p (run p past) q e with
          ⟨hp, -⟩ | ⟨hp, -, -⟩ | ⟨hp, ht, hs⟩ | ⟨hp, -, hs⟩
        · cases hb hp
        · cases hb hp
        · refine .inr ⟨q, e, rfl, hq, ht, hp, ?_⟩
          rw [hc] at hs
          by_contra hf
          rw [if_pos (by simpa using hf)] at hs
          cases hs
        · exact absurd (hs.symm.trans hc) hp
      · rw [step_settle_of_notMem p hq] at hc
        cases hb hc
    · cases hb hc
    · exact .inl rfl
    · cases hc
  · rintro (hm | ⟨q, e, rfl, hq, ht, hp, hf⟩)
    · rcases m with _ | _ | _ | _ | _
      · cases hm
      · cases hm
      · cases hm
      · exact ⟨rfl, fun _ => rfl⟩
      · cases hm
    · refine ⟨?_, fun h => absurd (h.symm.trans hp) (by simp)⟩
      rw [run_cons, step_settle p hq]
      rcases settle_cases p (run p past) q e with ⟨h, -⟩ | ⟨h, -⟩ | ⟨-, -, h⟩ | ⟨-, h, -⟩
      · simp [hp] at h
      · simp [hp] at h
      · simpa [hf] using h
      · simp [h hp] at ht

/-- A breaker that becomes closed starts to count anew. -/
theorem failures_of_closes {past : List (Move α)} {m : Move α} (h : Closes p past m) :
    (run p (m :: past)).breaker.failures = 0 := by
  rcases closes_iff.1 h with hm | ⟨q, e, rfl, hq, ht, hp, hf⟩
  · rcases m with _ | _ | _ | _ | _
    · cases hm
    · cases hm
    · cases hm
    · rfl
    · cases hm
  · rw [run_cons, step_settle p hq]
    simp only [Traffic.settle, ht, settle_of_halfOpen hp, e.verdict_eq_success_iff.2 hf]

/-- A closed breaker that a move did not make closed was closed before it. -/
theorem closed_of_not_closes {past : List (Move α)} {m : Move α}
    (hc : (run p (m :: past)).phase = .closed) (hcl : ¬ Closes p past m) :
    (run p past).phase = .closed := by
  by_contra hb
  exact hcl ⟨hc, fun h => absurd h hb⟩

/-- The count of a closed breaker has not reached the threshold. -/
theorem failures_lt_threshold : ∀ h : List (Move α), (run p h).phase = .closed →
    (run p h).breaker.failures < max 1 p.threshold
  | [], _ => Nat.lt_of_lt_of_le Nat.one_pos (Nat.le_max_left _ _)
  | m :: past, hc => by
    by_cases hcl : Closes p past m
    · rw [failures_of_closes hcl]
      exact Nat.lt_of_lt_of_le Nat.one_pos (Nat.le_max_left _ _)
    have hb := closed_of_not_closes hc hcl
    have ih := failures_lt_threshold past hb
    rw [run_cons] at hc ⊢
    rcases m with _ | ⟨q, e⟩ | span | _ | _
    · rwa [step_attempt_of_some p (enter_of_closed hb)]
    · by_cases hq : q ∈ (run p past).out
      · rw [step_settle p hq] at hc ⊢
        have hs : ((run p past).settle p q e).phase = _ := settle_phase_of_closed hb
        have hf : ((run p past).settle p q e).breaker.failures = _ := settle_failures_of_closed hb
        rw [hs] at hc
        rw [hf]
        by_cases hv : e.verdict = .failure
        · rw [if_pos hv]
          have hn : ¬ max p.threshold 1 ≤ min ((run p past).breaker.failures + 1) countLimit :=
            fun hle => by simp [hv, hle] at hc
          omega
        · rw [if_neg hv]
          omega
      · rwa [step_settle_of_notMem p hq]
    · exact ih
    · exact absurd ⟨rfl, fun _ => rfl⟩ hcl
    · cases hc

end

-- A threshold is a number of 32 bits, like the count, which stops at the largest of them.
section
variable {p : Policy} (hp : p.threshold ≤ countLimit)

include hp in
/-- Below the threshold, the count of a closed breaker goes up by one with a failure. -/
theorem settle_failures {s : Traffic} (hc : s.phase = .closed)
    (hlt : s.breaker.failures < max 1 p.threshold) (q : Permit) (e : Ending α) :
    (s.settle p q e).breaker.failures
      = if e.isFailure = true then s.breaker.failures + 1 else 0 := by
  have hl : s.breaker.failures + 1 ≤ countLimit := by
    have : 1 ≤ countLimit := by decide
    omega
  have hs : (s.settle p q e).breaker.failures = _ := settle_failures_of_closed hc
  rw [hs, Nat.min_eq_left hl]
  simp only [e.verdict_eq_failure_iff]

include hp in
/-- Below the threshold, a closed breaker opens at the failure with which the count reaches it. -/
theorem settle_opens_iff {s : Traffic} (hc : s.phase = .closed)
    (hlt : s.breaker.failures < max 1 p.threshold) (q : Permit) (e : Ending α) :
    (s.settle p q e).phase = .opened
      ↔ e.isFailure = true ∧ max 1 p.threshold ≤ s.breaker.failures + 1 := by
  have hl : s.breaker.failures + 1 ≤ countLimit := by
    have : 1 ≤ countLimit := by decide
    omega
  have hs : (s.settle p q e).phase = _ := settle_phase_of_closed hc
  rw [hs, Nat.min_eq_left hl, Nat.max_comm]
  simp only [e.verdict_eq_failure_iff]
  split_ifs with h
  · exact ⟨fun _ => h, fun _ => rfl⟩
  · exact ⟨fun ho => absurd ho (by simp), fun hf => absurd hf h⟩

include hp in
/-- The count of a closed breaker is the streak, and the threshold is not reached. -/
theorem failures_eq_streak : ∀ h : List (Move α), (run p h).phase = .closed →
    (run p h).breaker.failures = streak p h ∧ (run p h).breaker.failures < max 1 p.threshold
  | [], hc => ⟨rfl, failures_lt_threshold [] hc⟩
  | m :: past, hc => by
    refine ⟨?_, failures_lt_threshold _ hc⟩
    by_cases hcl : Closes p past m
    · rw [streak_of_closes hcl, failures_of_closes hcl]
    have hb := closed_of_not_closes hc hcl
    obtain ⟨ih, hlt⟩ := failures_eq_streak past hb
    rw [run_cons]
    rcases m with _ | ⟨q, e⟩ | span | _ | _
    · rw [step_attempt_of_some p (enter_of_closed hb), streak_of_not_settled hcl rfl rfl]
      exact ih
    · by_cases hq : q ∈ (run p past).out
      · rw [step_settle p hq, streak_settle e hb hq, settle_failures hp hb hlt, ih]
      · rw [step_settle_of_notMem p hq, streak_of_not_settled hcl (by simp [Traffic.succeeds, hq])
          (by simp [Traffic.fails, hq])]
        exact ih
    · rw [streak_of_not_settled hcl rfl rfl]
      exact ih
    · exact absurd ⟨rfl, fun _ => rfl⟩ hcl
    · cases hc

include hp in
/-- While the breaker is closed its count is the streak; it opens when it is opened by hand, and at
the failure that makes the streak long enough. -/
theorem opens_iff (past : List (Move α)) (hc : (run p past).phase = .closed) :
    (run p past).breaker.failures = streak p past
    ∧ ∀ m : Move α, (run p (m :: past)).phase = .opened ↔ m = .forceOpen
      ∨ ((run p past).fails m = true ∧ max 1 p.threshold ≤ streak p (m :: past)) := by
  obtain ⟨hf, hlt⟩ := failures_eq_streak hp past hc
  refine ⟨hf, fun m => ?_⟩
  rw [run_cons]
  rcases m with _ | ⟨q, e⟩ | span | _ | _
  · rw [step_attempt_of_some p (enter_of_closed hc)]
    have hs : ((run p past).pass .normal (run p past).breaker).phase = .closed := hc
    simp [Traffic.fails, hs]
  · by_cases hq : q ∈ (run p past).out
    · rw [step_settle p hq, settle_opens_iff hp hc hlt, streak_settle e hc hq, hf]
      by_cases he : e.isFailure = true <;> simp [Traffic.fails, hq, he]
    · rw [step_settle_of_notMem p hq]
      simp [Traffic.fails, hq, hc]
  · have hs : ((run p past).step p (.wait span : Move α)).phase = .closed := hc
    simp [Traffic.fails, hs]
  · simp [Traffic.step, Traffic.fails, Breaker.reset]
  · simp [Traffic.step, Breaker.forceOpen]

/-- Four calls go through together. Two fail and open the breaker, the third fails while it is open,
a trial closes it, and the fourth fails after that: the one failure that counts. -/
def lateFailures : List (Move Nat) := [
  .attempt,
  .settle ⟨3, .normal⟩ .dropped,
  .settle ⟨4, .trial⟩ (.returned (.ok 7)),
  .attempt, .wait 30000000000,
  .settle ⟨2, .normal⟩ (.returned (.error (.timeout "resolve" "late"))),
  .settle ⟨1, .normal⟩ (.returned (.error (.unavailable "resolve" 503))),
  .settle ⟨0, .normal⟩ .dropped,
  .attempt, .attempt, .attempt, .attempt]

theorem opens_after_lateFailures :
    (2 ≤ countLimit ∧ (run { threshold := 2 } lateFailures).phase = .closed)
    ∧ (run { threshold := 2 } (.settle ⟨5, .normal⟩ .dropped :: lateFailures)).phase = .opened := by
  have hc : (run { threshold := 2 } lateFailures).phase = .closed := by decide
  refine ⟨⟨by decide, hc⟩, ?_⟩
  exact ((opens_iff (by decide) lateFailures hc).2 _).2 (.inr ⟨by decide, by decide⟩)

end
end SecretBroker.Breaker
