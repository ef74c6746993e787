import SecretBroker.Proofs.Breaker.Timeout

/-!
# The trial of a half-open breaker

As long as nobody intervenes by hand, the calls that are out hold one trial permit while the breaker
is half open and none otherwise (`SingleTrial`): a trial goes through when the breaker becomes half
open, and the breaker is no longer half open when it settles. Calls from before the opening may
settle at any time; they hold normal permits. So the trial alone decides (`trial_decides`).
-/

namespace SecretBroker.Breaker

variable {α : Type}

namespace Traffic

theorem mem_trials {s : Traffic} {q : Permit} : q ∈ s.trials ↔ q ∈ s.out ∧ q.ticket = .trial := by
  simp [trials]

theorem trials_pass_normal (s : Traffic) (b : Breaker) : (s.pass .normal b).trials = s.trials := by
  simp [trials, pass]

theorem trials_pass_trial (s : Traffic) (b : Breaker) :
    (s.pass .trial b).trials = ⟨s.admitted, .trial⟩ :: s.trials := by
  simp [trials, pass]

theorem trials_settle (p : Policy) (s : Traffic) (q : Permit) (e : Ending α) :
    (s.settle p q e).trials = s.trials.filter (· ≠ q) := by
  simp [trials, settle, List.filter_filter, Bool.and_comm]

theorem trials_settle_of_normal (p : Policy) (s : Traffic) {q : Permit} (hq : q.ticket = .normal)
    (e : Ending α) : (s.settle p q e).trials = s.trials := by
  rw [trials_settle, List.filter_eq_self]
  intro q' hq'
  have ht := (mem_trials.1 hq').2
  have hne : q' ≠ q := fun h => by simp [h, hq] at ht
  simpa using hne

end Traffic

section
variable {p : Policy}

/-- A breaker turns calls away while it is half open. -/
theorem enter_eq_none_of_halfOpen {h : List (Move α)} (ho : (run p h).phase = .halfOpen) :
    (run p h).breaker.enter p (run p h).now = none :=
  enter_of_trialOut ho ((trialOut_iff p h).2 ho)

variable (p) in
/-- What a move means for the trials that are out. -/
inductive TrialMove (s : Traffic) (m : Move α) : Prop where
  /-- A trial goes through, and a half-open phase begins. -/
  | begins (before : s.phase ≠ .halfOpen) (after : (s.step p m).phase = .halfOpen)
    (byHand : m.isManual = false)
    (trials : (s.step p m).trials = ⟨s.admitted, .trial⟩ :: s.trials)
  | within (before : s.phase = .halfOpen) (after : (s.step p m).phase = .halfOpen)
    (byHand : m.isManual = false) (trials : (s.step p m).trials = s.trials)
  /-- A trial settles, and its verdict ends the half-open phase. -/
  | decides (before : s.phase = .halfOpen) (after : (s.step p m).phase ≠ .halfOpen)
    (q : Permit) (e : Ending α) (settles : m = .settle q e) (mem : q ∈ s.trials)
    (trials : (s.step p m).trials = s.trials.filter (· ≠ q))
  | outside (before : s.phase ≠ .halfOpen) (after : (s.step p m).phase ≠ .halfOpen)
    (byHand : m.isManual = false) (trials : ∀ q ∈ (s.step p m).trials, q ∈ s.trials)
  | intervenes (after : (s.step p m).phase ≠ .halfOpen) (byHand : m.isManual = true)
    (trials : (s.step p m).trials = s.trials)

theorem trialMove_of_idle {s : Traffic} {m : Move α} (hm : m.isManual = false)
    (hp : (s.step p m).phase = s.phase) (ht : (s.step p m).trials = s.trials) :
    TrialMove p s m := by
  by_cases ho : s.phase = .halfOpen
  · exact .within ho (hp.trans ho) hm ht
  · exact .outside ho (by rwa [hp]) hm (by simp [ht])

theorem trialMove_settle {s : Traffic} {q : Permit} (hq : q ∈ s.out) (e : Ending α) :
    TrialMove p s (.settle q e) := by
  have h := step_settle p hq e
  have hsub : ∀ q' ∈ (s.step p (.settle q e)).trials, q' ∈ s.trials := by
    intro q' hq'
    rw [h, Traffic.trials_settle] at hq'
    exact (List.mem_filter.1 hq').1
  rcases settle_cases p s q e with ⟨hp, hs⟩ | ⟨hp, -, hs⟩ | ⟨hp, ht, hs⟩ | ⟨-, ht, hs⟩
  · exact .outside (by simp [hp]) (by simp [h, hs]) rfl hsub
  · exact .outside (by simp [hp]) (by simp [h, hs]) rfl hsub
  · refine .decides hp ?_ q e rfl (Traffic.mem_trials.2 ⟨hq, ht⟩) ?_
    · rw [h, hs]
      split_ifs <;> simp
    · rw [h, Traffic.trials_settle]
  · by_cases ho : s.phase = .halfOpen
    · refine trialMove_of_idle rfl (by rw [h, hs]) ?_
      rw [h, Traffic.trials_settle_of_normal p s (ht ho)]
    · exact .outside ho (by rwa [h, hs]) rfl hsub

/-- A half-open phase begins with the trial that goes through, and until a trial settles or someone
intervenes none comes or goes. -/
theorem trialMove {s : Traffic} (hs : s.breaker.trialOut = true ↔ s.phase = .halfOpen)
    (m : Move α) : TrialMove p s m := by
  rcases m with _ | ⟨q, e⟩ | span | _ | _
  · rcases attempt_cases p α hs with ⟨-, h⟩ | ⟨hp, -, h⟩ | ⟨-, -, h⟩
    · exact trialMove_of_idle rfl (by rw [h]; rfl) (by rw [h, Traffic.trials_pass_normal])
    · exact .begins (by simp [hp]) (by rw [h]; rfl) rfl (by rw [h, Traffic.trials_pass_trial])
    · have h := step_attempt_of_none (α := α) p h
      exact trialMove_of_idle rfl (by rw [h]) (by rw [h])
  · by_cases hq : q ∈ s.out
    · exact trialMove_settle hq e
    · have h := step_settle_of_notMem p hq e
      exact trialMove_of_idle rfl (by rw [h]) (by rw [h])
  · exact trialMove_of_idle rfl rfl rfl
  · exact .intervenes (by simp [Traffic.step, Breaker.reset]) rfl rfl
  · exact .intervenes (by simp [Traffic.step, Breaker.forceOpen]) rfl rfl

/-- One trial is out while the breaker is half open, and otherwise none. -/
def SingleTrial (s : Traffic) : Prop :=
  (s.phase = .halfOpen ∧ ∃ q, s.trials = [q]) ∨ (s.phase ≠ .halfOpen ∧ s.trials = [])

theorem singleTrial_step {s : Traffic} {m : Move α} (h : TrialMove p s m) (hs : SingleTrial s)
    (hm : m.isManual = false) : SingleTrial (s.step p m) := by
  rcases hs with ⟨ho, q, hq⟩ | ⟨ho, hn⟩
  · cases h with
    | begins before => exact absurd ho before
    | within _ after _ trials => exact .inl ⟨after, q, trials.trans hq⟩
    | decides _ after q' _ _ mem trials =>
      rw [hq, List.mem_singleton] at mem
      exact .inr ⟨after, by simp [trials, hq, mem]⟩
    | outside before => exact absurd ho before
    | intervenes _ byHand => simp [hm] at byHand
  · cases h with
    | begins _ after _ trials => exact .inl ⟨after, _, by rw [trials, hn]⟩
    | within before => exact absurd before ho
    | decides before => exact absurd before ho
    | outside _ after _ trials =>
      refine .inr ⟨after, List.eq_nil_iff_forall_not_mem.2 fun q hq => ?_⟩
      simpa [hn] using trials q hq
    | intervenes _ byHand => simp [hm] at byHand

theorem singleTrial_run : ∀ h : List (Move α), (∀ m ∈ h, m.isManual = false) →
    SingleTrial (run p h)
  | [], _ => .inr ⟨by simp [run], rfl⟩
  | m :: past, hn =>
    singleTrial_step (trialMove (trialOut_iff p past) m)
      (singleTrial_run past fun m hm => hn m (List.mem_cons_of_mem _ hm)) (hn m List.mem_cons_self)

/-- A trial that settles while the breaker is half open decides. -/
theorem settle_trial {h : List (Move α)} {q : Permit} (ho : (run p h).phase = .halfOpen)
    (hq : q ∈ (run p h).trials) (e : Ending α) :
    (run p (.settle q e :: h)).breaker =
      if e.isFailure = true then
        { (run p h).breaker with
          phase := .opened, failures := min ((run p h).breaker.failures + 1) countLimit
          lastFailure := some (run p h).now, trialOut := false }
      else { (run p h).breaker with phase := .closed, failures := 0, trialOut := false } := by
  obtain ⟨hq, ht⟩ := Traffic.mem_trials.1 hq
  have hb : (run p h).breaker.settle p (run p h).now .trial e.verdict = _ := settle_of_halfOpen ho
  rw [run_cons, step_settle p hq]
  simp only [Traffic.settle, ht, hb]
  split_ifs with hf
  · rw [e.verdict_eq_failure_iff.2 hf]
  · rw [e.verdict_eq_success_iff.2 (by simpa using hf)]

theorem settle_trial_phase {h : List (Move α)} {q : Permit} (ho : (run p h).phase = .halfOpen)
    (hq : q ∈ (run p h).trials) (e : Ending α) :
    (run p (.settle q e :: h)).phase = if e.isFailure = true then .opened else .closed := by
  unfold Traffic.phase
  rw [settle_trial ho hq]
  split_ifs <;> rfl

/-- Without intervention there is one trial out while the breaker is half open and none otherwise.
While it is out, other calls are turned away and earlier ones leave the breaker half open; its own
end closes the breaker or opens it again. -/
theorem trial_decides (h : List (Move α)) (hn : ∀ m ∈ h, m.isManual = false) :
    (run p h).trials.length ≤ 1
    ∧ ((run p h).trials.length = 1 ↔ (run p h).phase = .halfOpen)
    ∧ ((run p h).trials.length = 1 →
      TurnsAway p (run p h) ∧ run p (.attempt :: h) = run p h
      ∧ ∀ q ∈ (run p h).out, q.ticket = .normal → ∀ e,
        (run p (.settle q e :: h)).phase = .halfOpen)
    ∧ ∀ q ∈ (run p h).trials, ∀ e,
      if e.isFailure = true then
        (run p (.settle q e :: h)).phase = .opened
        ∧ (run p (.settle q e :: h)).breaker.lastFailure = some (run p h).now
      else
        (run p (.settle q e :: h)).phase = .closed
        ∧ (run p (.settle q e :: h)).breaker.failures = 0 := by
  rcases singleTrial_run (p := p) h hn with ⟨ho, q, ht⟩ | ⟨ho, ht⟩
  · refine ⟨by simp [ht], by simp [ht, ho], fun _ => ⟨?_, ?_, ?_⟩, ?_⟩
    · exact turnsAway_of_enter (enter_eq_none_of_halfOpen ho)
    · exact step_attempt_of_none p (enter_eq_none_of_halfOpen ho)
    · intro q hq hnormal e
      rw [run_cons, step_settle p hq]
      exact (settle_phase_of_late (by simp [ho]) fun _ => hnormal).trans ho
    · intro q hq e
      unfold Traffic.phase
      rw [settle_trial ho hq]
      split_ifs with hf <;> exact ⟨rfl, rfl⟩
  · simp [ht, ho]

/-- Two calls go through, the first fails and opens the breaker, and thirty seconds later a trial
goes through while the second is still out. -/
def lateTrial : List (Move Nat) := [
  .attempt, .wait 30000000000, .settle ⟨0, .normal⟩ .dropped, .attempt, .attempt]

theorem trial_decides_beside_call :
    (∀ m ∈ lateTrial, m.isManual = false)
    ∧ (run { threshold := 1 } lateTrial).trials.length = 1
    ∧ (run { threshold := 1 } (.settle ⟨1, .normal⟩ .dropped :: lateTrial)).phase = .halfOpen
    ∧ (run { threshold := 1 } (.settle ⟨2, .trial⟩ .dropped :: lateTrial)).phase = .opened := by
  have hn : ∀ m ∈ lateTrial, m.isManual = false := by
    simp [lateTrial, Move.isManual, Move.isReset, Move.isForceOpen]
  have ht : (run { threshold := 1 } lateTrial).trials.length = 1 := by decide
  obtain ⟨-, -, hl, hd⟩ := trial_decides (p := { threshold := 1 }) lateTrial hn
  refine ⟨hn, ht, (hl ht).2.2 _ (by decide) rfl _, ?_⟩
  exact (hd ⟨2, .trial⟩ (by decide) .dropped).1

end
end SecretBroker.Breaker
