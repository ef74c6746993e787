import SecretBroker.Proofs.Breaker.Trial

/-!
# Trials that outlive their phase

A permit tells that a call is a trial, not of which half-open phase. A trial that is out when someone
resets the breaker or opens it by hand is overtaken: if it settles in a later half-open phase, its
verdict decides that phase, while the phase's own trial is still out (`settle_overtaken`). This is
the one way in which a half-open phase is not decided by its own trial (`ownTrialsDecide_iff`).
-/

namespace SecretBroker.Breaker

variable {α : Type}

section
variable (p : Policy)

/-- The trial with which the latest half-open phase began. -/
def ownTrial : List (Move α) → Option Permit
  | [] => none
  | m :: past =>
    if (run p past).phase ≠ .halfOpen ∧ (run p (m :: past)).phase = .halfOpen then
      some ⟨(run p past).admitted, .trial⟩
    else ownTrial past

/-- The breaker was reset or opened by hand while this trial was out. -/
def Overtaken (q : Permit) : List (Move α) → Prop
  | [] => False
  | m :: past => (m.isManual = true ∧ q ∈ (run p past).trials) ∨ Overtaken q past

/-- Every half-open phase that a settlement ended was decided by its own trial. -/
def OwnTrialsDecide : List (Move α) → Prop
  | [] => True
  | .settle q e :: past =>
    OwnTrialsDecide past
    ∧ ((run p past).phase = .halfOpen → (run p (.settle q e :: past)).phase ≠ .halfOpen →
      ownTrial p past = some q)
  | _ :: past => OwnTrialsDecide past

/-- An overtaken trial settled in a half-open phase. -/
def StaleVerdict : List (Move α) → Prop
  | [] => False
  | .settle q _ :: past =>
    StaleVerdict past
    ∨ ((run p past).phase = .halfOpen ∧ q ∈ (run p past).trials ∧ Overtaken p q past)
  | _ :: past => StaleVerdict past

variable {p}

theorem ownTrial_of_begins {past : List (Move α)} {m : Move α}
    (hb : (run p past).phase ≠ .halfOpen) (ha : ((run p past).step p m).phase = .halfOpen) :
    ownTrial p (m :: past) = some ⟨(run p past).admitted, .trial⟩ := by
  rw [ownTrial, if_pos ⟨hb, ha⟩]

theorem ownTrial_of_halfOpen {past : List (Move α)} (m : Move α)
    (hb : (run p past).phase = .halfOpen) : ownTrial p (m :: past) = ownTrial p past := by
  rw [ownTrial, if_neg fun h => h.1 hb]

theorem overtaken_of_not_manual {q : Permit} {past : List (Move α)} {m : Move α}
    (hm : m.isManual = false) (h : Overtaken p q (m :: past)) : Overtaken p q past := by
  rcases h with ⟨hm', -⟩ | h
  · simp [hm] at hm'
  · exact h

theorem staleVerdict_cons {past : List (Move α)} (m : Move α) (h : StaleVerdict p past) :
    StaleVerdict p (m :: past) := by
  rcases m with _ | _ | _ | _ | _
  · exact h
  · exact .inl h
  · exact h
  · exact h
  · exact h

theorem admitted_le_step (s : Traffic) (m : Move α) : s.admitted ≤ (s.step p m).admitted := by
  rcases m with _ | ⟨q, e⟩ | span | _ | _
  · simp only [Traffic.step]
    split
    · exact Nat.le_succ _
    · exact Nat.le_refl _
  · simp only [Traffic.step]
    split_ifs <;> exact Nat.le_refl _
  · exact Nat.le_refl _
  · exact Nat.le_refl _
  · exact Nat.le_refl _

theorem call_lt_step {s : Traffic} (hs : ∀ q ∈ s.out, q.call < s.admitted) (m : Move α) :
    ∀ q ∈ (s.step p m).out, q.call < (s.step p m).admitted := by
  intro q hq
  rcases m with _ | ⟨q', e⟩ | span | _ | _
  · simp only [Traffic.step] at hq ⊢
    split at hq
    · rcases List.mem_cons.1 hq with rfl | hq
      · exact Nat.lt_succ_self _
      · exact Nat.lt_succ_of_lt (hs q hq)
    · exact hs q hq
  · simp only [Traffic.step] at hq ⊢
    split_ifs at hq ⊢
    · exact hs q (List.mem_filter.1 hq).1
    · exact hs q hq
  · exact hs q hq
  · exact hs q hq
  · exact hs q hq

/-- The calls are numbered in the order in which they went through. -/
theorem call_lt_admitted : ∀ h : List (Move α), ∀ q ∈ (run p h).out, q.call < (run p h).admitted
  | [], _, hq => by cases hq
  | m :: past, q, hq => call_lt_step (call_lt_admitted past) m q hq

theorem overtaken_lt {q : Permit} : ∀ {h : List (Move α)}, Overtaken p q h →
    q.call < (run p h).admitted
  | m :: past, .inl ⟨_, hq⟩ =>
    Nat.lt_of_lt_of_le (call_lt_admitted past q (Traffic.mem_trials.1 hq).1)
      (admitted_le_step _ m)
  | m :: _, .inr h => Nat.lt_of_lt_of_le (overtaken_lt h) (admitted_le_step _ m)

/-- The own trial of a half-open phase is out, and it went through after every overtaken one. -/
theorem ownTrial_out : ∀ h : List (Move α), (run p h).phase = .halfOpen →
    ∃ o ∈ (run p h).trials, ownTrial p h = some o ∧ ∀ q, Overtaken p q h → q.call < o.call
  | [], ho => by cases ho
  | m :: past, ho => by
    rw [run_cons] at ho ⊢
    cases trialMove (trialOut_iff p past) m with
    | begins before after byHand trials =>
      refine ⟨⟨(run p past).admitted, .trial⟩, ?_, ownTrial_of_begins before after, fun q hq => ?_⟩
      · rw [trials]
        exact List.mem_cons_self
      · exact overtaken_lt (overtaken_of_not_manual byHand hq)
    | within before after byHand trials =>
      obtain ⟨o, ho, hown, hlt⟩ := ownTrial_out past before
      refine ⟨o, by rwa [trials], ?_, fun q hq => hlt q (overtaken_of_not_manual byHand hq)⟩
      rw [ownTrial_of_halfOpen m before, hown]
    | decides _ after => exact absurd ho after
    | outside _ after => exact absurd ho after
    | intervenes after => exact absurd ho after

/-- Unless an overtaken trial settled in a half-open phase, every trial that is out is overtaken or
the own trial of the phase. -/
theorem overtaken_or_own : ∀ h : List (Move α), ¬ StaleVerdict p h → ∀ q ∈ (run p h).trials,
    Overtaken p q h ∨ ((run p h).phase = .halfOpen ∧ ownTrial p h = some q)
  | [], _, _, hq => by cases hq
  | m :: past, hn, q, hq => by
    have ih := overtaken_or_own past fun h => hn (staleVerdict_cons m h)
    rw [run_cons] at hq ⊢
    cases trialMove (trialOut_iff p past) m with
    | begins before after _ trials =>
      rw [trials] at hq
      rcases List.mem_cons.1 hq with rfl | hq
      · exact .inr ⟨after, ownTrial_of_begins before after⟩
      · rcases ih q hq with h | ⟨h, -⟩
        · exact .inl (.inr h)
        · exact absurd h before
    | within before after _ trials =>
      rcases ih q (trials ▸ hq) with h | ⟨-, h⟩
      · exact .inl (.inr h)
      · exact .inr ⟨after, (ownTrial_of_halfOpen m before).trans h⟩
    | decides before _ q' e settles mem trials =>
      subst settles
      rw [trials, List.mem_filter] at hq
      rcases ih q hq.1 with h | ⟨-, h⟩
      · exact .inl (.inr h)
      -- The call that settled is not overtaken, so it is the own trial, too.
      · rcases ih q' mem with h' | ⟨-, h'⟩
        · exact absurd (.inr ⟨before, mem, h'⟩) hn
        · rw [h, Option.some.injEq] at h'
          simp [h'] at hq
    | outside before _ _ trials =>
      rcases ih q (trials q hq) with h | ⟨h, -⟩
      · exact .inl (.inr h)
      · exact absurd h before
    | intervenes _ byHand trials => exact .inl (.inl ⟨byHand, trials ▸ hq⟩)

/-- A half-open phase ends when a trial settles. -/
theorem settle_phase_ne_iff {past : List (Move α)} (ho : (run p past).phase = .halfOpen)
    (q : Permit) (e : Ending α) :
    (run p (.settle q e :: past)).phase ≠ .halfOpen ↔ q ∈ (run p past).trials := by
  constructor
  · intro hne
    cases trialMove (trialOut_iff p past) (.settle q e) with
    | begins before => exact absurd ho before
    | within _ after => exact absurd after hne
    | decides _ _ q' e' settles mem =>
      cases settles
      exact mem
    | outside before => exact absurd ho before
    | intervenes _ byHand => cases byHand
  · intro hq
    rw [settle_trial_phase ho hq]
    split_ifs <;> simp

/-- An overtaken trial decides the half-open phase in which it settles, and the phase's own trial is
still out. -/
theorem settle_overtaken {past : List (Move α)} {q : Permit} (ho : (run p past).phase = .halfOpen)
    (hq : q ∈ (run p past).trials) (hov : Overtaken p q past) (e : Ending α) :
    (run p (.settle q e :: past)).phase = (if e.isFailure = true then .opened else .closed)
    ∧ ∃ o ∈ (run p (.settle q e :: past)).trials, ownTrial p past = some o ∧ o ≠ q := by
  obtain ⟨o, hmem, hown, hlt⟩ := ownTrial_out past ho
  have hne : o ≠ q := fun h => Nat.lt_irrefl _ (h ▸ hlt q hov)
  refine ⟨settle_trial_phase ho hq e, o, ?_, hown, hne⟩
  rw [run_cons, step_settle p (Traffic.mem_trials.1 hq).1, Traffic.trials_settle]
  exact List.mem_filter.2 ⟨hmem, by simpa using hne⟩

/-- Half-open phases are decided by their own trials exactly as long as no trial that a reset or an
opening by hand overtook settles in one. -/
theorem ownTrialsDecide_iff : ∀ h : List (Move α), OwnTrialsDecide p h ↔ ¬ StaleVerdict p h
  | [] => by simp [OwnTrialsDecide, StaleVerdict]
  | .attempt :: past => ownTrialsDecide_iff past
  | .wait _ :: past => ownTrialsDecide_iff past
  | .reset :: past => ownTrialsDecide_iff past
  | .forceOpen :: past => ownTrialsDecide_iff past
  | .settle q e :: past => by
    rw [OwnTrialsDecide, StaleVerdict, not_or, ownTrialsDecide_iff past]
    refine and_congr_right fun hn => ⟨?_, fun h ho hne => ?_⟩
    · rintro h ⟨ho, hq, hov⟩
      obtain ⟨-, o, -, hown, hne⟩ := settle_overtaken ho hq hov e
      have h := h ho ((settle_phase_ne_iff ho q e).2 hq)
      rw [hown, Option.some.injEq] at h
      exact hne h
    · have hq := (settle_phase_ne_iff ho q e).1 hne
      rcases overtaken_or_own past hn q hq with hov | ⟨-, hown⟩
      · exact absurd ⟨ho, hq, hov⟩ h
      · exact hown

/-- A trial is out when the breaker is opened by hand, and a second later the next one goes
through. -/
def twoTrials : List (Move Nat) :=
  [.attempt, .wait 1000000000, .forceOpen, .attempt, .wait 1000000000, .forceOpen]

theorem overtaken_trial_closes :
    ¬ OwnTrialsDecide { threshold := 1, resetTimeout := .ofSecs 1 }
      (.settle ⟨0, .trial⟩ (.returned (.ok 7)) :: twoTrials)
    ∧ (run { threshold := 1, resetTimeout := .ofSecs 1 }
      (.settle ⟨0, .trial⟩ (.returned (.ok 7)) :: twoTrials)).phase = .closed
    ∧ (run { threshold := 1, resetTimeout := .ofSecs 1 }
      (.settle ⟨0, .trial⟩ (.returned (.ok 7)) :: twoTrials)).trials = [⟨1, .trial⟩] := by
  refine ⟨?_, by decide, by decide⟩
  rintro ⟨-, h⟩
  exact absurd (h (by decide) (by decide)) (by decide)

end
end SecretBroker.Breaker
