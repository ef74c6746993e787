import SecretBroker.Gateway.Session
import SecretBroker.Proofs.Breaker.Traffic

/-!
# How long a breaker stays open

The timer of a breaker that is not closed runs from the latest blow, a call's failure or an opening
by hand, and late failures of calls from before the opening are blows like any other
(`lastFailure_eq_lastBlow`). An open breaker stays open but for a reset and the first call that asks
once the timeout has passed since the latest blow (`opened_step_iff`, `opened_until_due`).
-/

namespace SecretBroker.Breaker

variable {α : Type}

/-- A guarded call is told that the circuit is open. Whatever it would do is not done, and the
session stays as it is. -/
def TurnsAway (p : Policy) (s : Traffic) : Prop :=
  ∀ (β : Type) (operation : String) (body : Exchange (Except GatewayError β)) (x : Session),
    x.breakers.policy = p → x.breakers.find? operation = some s.breaker → x.now = s.now →
      Exchange.guarded operation body x = (some (.error (.circuitOpen operation)), x)

theorem turnsAway_of_enter {p : Policy} {s : Traffic} (h : s.breaker.enter p s.now = none) :
    TurnsAway p s := by
  intro β operation body x hp hf hn
  rw [← hp, ← hn] at h
  simp only [Exchange.guarded, Registry.enter_of_none hf h]

section
variable (p : Policy)

/-- The instant of the latest failure of a call or opening by hand. -/
def lastBlow : List (Move α) → Option Instant
  | [] => none
  | m :: past =>
    if (run p past).fails m || m.isForceOpen then some (run p past).now else lastBlow past

/-- A call that asks to go through after `past` comes before the timeout has passed since the latest
blow. -/
def TooSoon (past : List (Move α)) : Prop :=
  ∃ f ∈ lastBlow p past, (run p past).now - f < p.resetTimeout.toNanos

instance (past : List (Move α)) : Decidable (TooSoon p past) :=
  inferInstanceAs (Decidable (∃ f ∈ lastBlow p past, _))

/-- In `later`, which follows `past`, the breaker is not reset and every call asks too soon. -/
def Quiet (past : List (Move α)) : List (Move α) → Prop
  | [] => True
  | .attempt :: later => Quiet past later ∧ TooSoon p (later ++ past)
  | .reset :: _ => False
  | _ :: later => Quiet past later

variable {p}

theorem lastBlow_of_blow {past : List (Move α)} {m : Move α}
    (h : (run p past).fails m = true ∨ m.isForceOpen = true) :
    lastBlow p (m :: past) = some (run p past).now := by
  rw [lastBlow, if_pos (by simpa using h)]

theorem lastBlow_of_not_blow {past : List (Move α)} {m : Move α}
    (hf : (run p past).fails m = false) (ho : m.isForceOpen = false) :
    lastBlow p (m :: past) = lastBlow p past := by
  simp [lastBlow, hf, ho]

/-- Only a failure takes a breaker out of the closed phase. -/
theorem phase_ne_closed_of_settle {s : Traffic} {q : Permit} {e : Ending α}
    (hf : ¬ e.isFailure = true) (hc : (s.settle p q e).phase ≠ .closed) : s.phase ≠ .closed := by
  intro hp
  rcases settle_cases p s q e with ⟨-, h⟩ | ⟨-, h, -⟩ | ⟨h, -⟩ | ⟨h, -⟩
  · exact hc h
  · exact hf h
  · simp [hp] at h
  · exact h hp

/-- A breaker that is not closed has the latest blow on record. -/
theorem lastFailure_eq_lastBlow : ∀ h : List (Move α), (run p h).phase ≠ .closed →
    ∃ f ≤ (run p h).now, lastBlow p h = some f ∧ (run p h).breaker.lastFailure = some f
  | [], hc => absurd rfl hc
  | m :: past, hc => by
    have ih := lastFailure_eq_lastBlow past
    rw [run_cons] at hc ⊢
    rcases m with _ | ⟨q, e⟩ | span | _ | _
    · rw [lastBlow_of_not_blow rfl rfl]
      rcases attempt_cases p α (trialOut_iff p past) with ⟨hp, hs⟩ | ⟨hp, -, hs⟩ | ⟨hp, -, hs⟩
      · rw [hs] at hc
        exact absurd hp hc
      · rw [hs]
        exact ih (by simp [hp])
      · rw [step_attempt_of_none p hs]
        exact ih hp
    · by_cases hq : q ∈ (run p past).out
      · rw [step_settle p hq] at hc ⊢
        have hl : ((run p past).settle p q e).breaker.lastFailure = _ := settle_lastFailure
        rw [hl]
        by_cases hf : e.isFailure = true
        · refine ⟨_, Nat.le_refl _, lastBlow_of_blow (.inl (by simp [Traffic.fails, hq, hf])), ?_⟩
          rw [if_pos (e.verdict_eq_failure_iff.2 hf)]
          rfl
        · rw [lastBlow_of_not_blow (by simp [Traffic.fails, hf]) rfl,
            if_neg (mt e.verdict_eq_failure_iff.1 hf)]
          exact ih (phase_ne_closed_of_settle hf hc)
      · rw [step_settle_of_notMem p hq] at hc ⊢
        rw [lastBlow_of_not_blow (by simp [Traffic.fails, hq]) rfl]
        exact ih hc
    · obtain ⟨f, hf, hb, hl⟩ := ih hc
      rw [lastBlow_of_not_blow rfl rfl]
      exact ⟨f, Nat.le_trans hf (Nat.le_add_right _ _), hb, hl⟩
    · exact absurd rfl hc
    · exact ⟨_, Nat.le_refl _, lastBlow_of_blow (.inr rfl), rfl⟩

/-- A reset is due at a breaker that is not closed unless it is too soon. -/
theorem resetDue_iff {h : List (Move α)} (hc : (run p h).phase ≠ .closed) :
    (run p h).breaker.resetDue p (run p h).now = true ↔ ¬ TooSoon p h := by
  obtain ⟨f, -, hb, hl⟩ := lastFailure_eq_lastBlow h hc
  rw [resetDue_of_lastFailure hl, TooSoon, hb]
  simp

/-- An open breaker changes its phase by a reset and by a call that asks in time. -/
theorem opened_step_iff {h : List (Move α)} (ho : (run p h).phase = .opened) (m : Move α) :
    (run p (m :: h)).phase = .opened ↔ Quiet p h [m] := by
  have hc : (run p h).phase ≠ .closed := by simp [ho]
  rw [run_cons]
  rcases m with _ | ⟨q, e⟩ | span | _ | _
  · simp only [Quiet, List.nil_append, true_and]
    rcases attempt_cases p α (trialOut_iff p h) with ⟨hp, -⟩ | ⟨-, hd, hs⟩ | ⟨-, hd, hs⟩
    · exact absurd hp hc
    · rw [hs]
      simp [Traffic.pass, (resetDue_iff hc).1 hd]
    · rw [step_attempt_of_none p hs]
      simpa [ho] using mt (resetDue_iff hc).2 (hd ho)
  · by_cases hq : q ∈ (run p h).out
    · rw [step_settle p hq]
      rcases settle_cases p (run p h) q e with ⟨hp, -⟩ | ⟨hp, -⟩ | ⟨hp, -⟩ | ⟨-, -, hs⟩
      · exact absurd hp hc
      · exact absurd hp hc
      · simp [ho] at hp
      · simp [hs, ho, Quiet]
    · rw [step_settle_of_notMem p hq]
      simp [ho, Quiet]
  · simpa [Quiet, Traffic.step] using ho
  · simp [Quiet, Traffic.step, Breaker.reset]
  · simp [Quiet, Traffic.step, Breaker.forceOpen]

theorem quiet_cons {past later : List (Move α)} {m : Move α} :
    Quiet p past (m :: later) ↔ Quiet p past later ∧ Quiet p (later ++ past) [m] := by
  rcases m with _ | _ | _ | _ | _ <;> simp [Quiet]

theorem opened_of_quiet {past : List (Move α)} (ho : (run p past).phase = .opened) :
    ∀ {later : List (Move α)}, Quiet p past later → (run p (later ++ past)).phase = .opened
  | [], _ => ho
  | m :: later, hq => by
    rw [quiet_cons] at hq
    exact (opened_step_iff (opened_of_quiet ho hq.1) m).2 hq.2

/-- Through quiet moves an open breaker stays open, whatever settles. Until the timeout has passed
since the latest blow it turns calls away; then the first call goes through on trial. -/
theorem opened_until_due {past : List (Move α)} (ho : (run p past).phase = .opened)
    {later : List (Move α)} (hq : Quiet p past later) :
    (run p (later ++ past)).phase = .opened
    ∧ ∃ f ≤ (run p (later ++ past)).now, lastBlow p (later ++ past) = some f
      ∧ ((run p (later ++ past)).now - f < p.resetTimeout.toNanos →
        TurnsAway p (run p (later ++ past))
        ∧ run p (.attempt :: (later ++ past)) = run p (later ++ past))
      ∧ (p.resetTimeout.toNanos ≤ (run p (later ++ past)).now - f →
        run p (.attempt :: (later ++ past)) = (run p (later ++ past)).pass .trial
          { (run p (later ++ past)).breaker with phase := .halfOpen, trialOut := true }) := by
  have hp := opened_of_quiet ho hq
  obtain ⟨f, hf, hb, hl⟩ := lastFailure_eq_lastBlow (p := p) (later ++ past) (by simp [hp])
  refine ⟨hp, f, hf, hb, fun hd => ?_, fun hd => ?_⟩
  · have hn : (run p (later ++ past)).breaker.enter p (run p (later ++ past)).now = none :=
      enter_of_not_due hp (by rw [resetDue_of_lastFailure hl]; exact Nat.not_le.2 hd)
    exact ⟨turnsAway_of_enter hn, step_attempt_of_none p hn⟩
  · exact step_attempt_of_some p (enter_of_due hp ((resetDue_of_lastFailure hl).2 hd))

/-- Two calls go through, and the failure of the first opens the breaker. -/
def openedEarly : List (Move Nat) := [.settle ⟨0, .normal⟩ .dropped, .attempt, .attempt]

/-- Ten seconds later the second one fails, and a call asks one nanosecond before the timeout has
passed since. -/
def almostDue : List (Move Nat) :=
  [.attempt, .wait 29999999999, .settle ⟨1, .normal⟩ .dropped, .wait 10000000000]

theorem trial_at_timeout :
    ((run { threshold := 1 } openedEarly).phase = .opened
      ∧ Quiet { threshold := 1 } openedEarly almostDue
      ∧ Quiet { threshold := 1 } openedEarly (.wait 1 :: almostDue))
    ∧ TurnsAway { threshold := 1 } (run { threshold := 1 } (almostDue ++ openedEarly))
    ∧ (run { threshold := 1 } (.attempt :: .wait 1 :: almostDue ++ openedEarly)).phase
      = .halfOpen := by
  have ho : (run { threshold := 1 } openedEarly).phase = .opened := by decide
  have hq : Quiet { threshold := 1 } openedEarly almostDue := ⟨trivial, by decide⟩
  have hw : Quiet { threshold := 1 } openedEarly (.wait 1 :: almostDue) := hq
  refine ⟨⟨ho, hq, hw⟩, ?_, ?_⟩
  · obtain ⟨-, f, -, hb, ht, -⟩ := opened_until_due ho hq
    obtain rfl : 10000000000 = f := Option.some.inj hb
    exact (ht (by decide)).1
  · obtain ⟨-, f, -, hb, -, hd⟩ := opened_until_due ho hw
    obtain rfl : 10000000000 = f := Option.some.inj hb
    exact congrArg Traffic.phase (hd (by decide))

end
end SecretBroker.Breaker
