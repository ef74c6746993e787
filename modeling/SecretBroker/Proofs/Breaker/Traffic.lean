import Mathlib.Tactic.SplitIfs
import SecretBroker.Breaker

/-!
# Traffic at a breaker

What can happen at one breaker, in any order: a call asks to go through, a call that went through
settles, time passes, someone resets the breaker or opens it by hand. `Traffic` is the breaker with
its clock and the permits of the calls that are out. A history lists the moves so far, the latest
first, and `run` is where they lead, so that an induction on the history is one on the run.

The trial of a half-open breaker is out (`trialOut_iff`), so a call that asks to go through meets one
of three cases (`attempt_cases`).
-/

namespace SecretBroker.Breaker

variable {α : Type}

/-- How a call that went through ends. -/
inductive Ending (α : Type) where
  | returned (result : Except GatewayError α)
  | dropped

namespace Ending

/-- What the breaker is told of a call's end. -/
def verdict : Ending α → Verdict
  | .returned result => .of result
  | .dropped => .failure

/-- Whether a call's end is a failure: it was dropped, or nothing came back, or the gateway said
that it is out of order. -/
def isFailure : Ending α → Bool
  | .dropped => true
  | .returned (.error (.timeout ..)) => true
  | .returned (.error (.transport ..)) => true
  | .returned (.error (.unavailable ..)) => true
  | .returned _ => false

theorem verdict_eq_failure_iff (e : Ending α) : e.verdict = .failure ↔ e.isFailure = true := by
  rcases e with (err | a) | _
  · cases err <;> simp [verdict, Verdict.of, isFailure, GatewayError.countsAsFailure]
  · simp [verdict, Verdict.of, isFailure]
  · simp [verdict, isFailure]

theorem verdict_eq_success_iff (e : Ending α) : e.verdict = .success ↔ e.isFailure = false := by
  rw [← Bool.not_eq_true, ← verdict_eq_failure_iff]
  cases e.verdict <;> simp

end Ending

/-- The leave of one call to go through: which call it is, and its ticket. -/
structure Permit where
  call : Nat
  ticket : Ticket
deriving DecidableEq, Repr

/-- What can happen at a breaker. -/
inductive Move (α : Type) where
  /-- A call asks to go through. -/
  | attempt
  /-- A call that is out settles. -/
  | settle (permit : Permit) (ending : Ending α)
  | wait (span : Nat)
  | reset
  | forceOpen

namespace Move

def isReset : Move α → Bool
  | .reset => true
  | _ => false

def isForceOpen : Move α → Bool
  | .forceOpen => true
  | _ => false

/-- Whether someone intervenes by hand. -/
def isManual (m : Move α) : Bool := m.isReset || m.isForceOpen

end Move

/-- A breaker, its clock, and the calls that went through it. -/
structure Traffic where
  now : Instant := 0
  breaker : Breaker := {}
  /-- How many calls went through so far. -/
  admitted : Nat := 0
  /-- The permits of the calls that have not settled. -/
  out : List Permit := []
deriving DecidableEq, Repr

namespace Traffic

/-- The phase of the breaker. -/
abbrev phase (s : Traffic) : Phase := s.breaker.phase

/-- The permits of the trials that have not settled. -/
def trials (s : Traffic) : List Permit := s.out.filter (·.ticket = .trial)

/-- Whether a move settles a call that is out with a failure. -/
def fails (s : Traffic) : Move α → Bool
  | .settle q e => q ∈ s.out && e.isFailure
  | _ => false

/-- Whether a move settles a call that is out with anything but a failure. -/
def succeeds (s : Traffic) : Move α → Bool
  | .settle q e => q ∈ s.out && !e.isFailure
  | _ => false

/-- One more call goes through, with this ticket, and leaves the breaker so. -/
def pass (s : Traffic) (t : Ticket) (b : Breaker) : Traffic :=
  { s with breaker := b, admitted := s.admitted + 1, out := ⟨s.admitted, t⟩ :: s.out }

/-- The call with this permit settles. -/
def settle (p : Policy) (s : Traffic) (q : Permit) (e : Ending α) : Traffic :=
  { s with breaker := s.breaker.settle p s.now q.ticket e.verdict, out := s.out.filter (· ≠ q) }

/-- What a move leads to. A permit that is not out cannot be used. -/
def step (p : Policy) (s : Traffic) : Move α → Traffic
  | .attempt =>
    match s.breaker.enter p s.now with
    | some (t, b) => s.pass t b
    | none => s
  | .settle q e => if q ∈ s.out then s.settle p q e else s
  | .wait span => { s with now := s.now + span }
  | .reset => { s with breaker := s.breaker.reset }
  | .forceOpen => { s with breaker := s.breaker.forceOpen s.now }

end Traffic

/-- Where a history leads: the moves so far, the latest first. -/
def run (p : Policy) : List (Move α) → Traffic
  | [] => {}
  | m :: past => (run p past).step p m

section
variable (p : Policy)

theorem run_cons (m : Move α) (past : List (Move α)) : run p (m :: past) = (run p past).step p m :=
  rfl

theorem step_settle {s : Traffic} {q : Permit} (hq : q ∈ s.out) (e : Ending α) :
    s.step p (.settle q e) = s.settle p q e := by
  simp only [Traffic.step, hq, ↓reduceIte]

theorem step_settle_of_notMem {s : Traffic} {q : Permit} (hq : q ∉ s.out) (e : Ending α) :
    s.step p (.settle q e) = s := by
  simp only [Traffic.step, hq, ↓reduceIte]

theorem step_attempt_of_some {s : Traffic} {t : Ticket} {b : Breaker}
    (h : s.breaker.enter p s.now = some (t, b)) :
    s.step p (.attempt : Move α) = s.pass t b := by
  simp only [Traffic.step, h]

theorem step_attempt_of_none {s : Traffic} (h : s.breaker.enter p s.now = none) :
    s.step p (.attempt : Move α) = s := by
  simp only [Traffic.step, h]

/-- A breaker whose trial is out exactly while it is half open lets a call through while closed,
tries one when a reset is due, and otherwise turns it away. -/
theorem attempt_cases (α : Type) {s : Traffic} (hs : s.breaker.trialOut = true ↔ s.phase = .halfOpen) :
    (s.phase = .closed ∧ s.step p (.attempt : Move α) = s.pass .normal s.breaker)
    ∨ (s.phase = .opened ∧ s.breaker.resetDue p s.now = true
      ∧ s.step p (.attempt : Move α)
        = s.pass .trial { s.breaker with phase := .halfOpen, trialOut := true })
    ∨ (s.phase ≠ .closed ∧ (s.phase = .opened → ¬ s.breaker.resetDue p s.now = true)
      ∧ s.breaker.enter p s.now = none) := by
  rcases hp : s.phase with _ | _ | _
  · exact .inl ⟨rfl, step_attempt_of_some p (enter_of_closed hp)⟩
  · by_cases hd : s.breaker.resetDue p s.now = true
    · exact .inr (.inl ⟨rfl, hd, step_attempt_of_some p (enter_of_due hp hd)⟩)
    · exact .inr (.inr ⟨by simp, fun _ => hd, enter_of_not_due hp hd⟩)
  · exact .inr (.inr ⟨by simp, by simp, enter_of_trialOut hp (hs.2 hp)⟩)

/-- A failure may open a closed breaker, a trial's end decides a half-open one, and no other
settlement changes the phase. -/
theorem settle_cases (s : Traffic) (q : Permit) (e : Ending α) :
    (s.phase = .closed ∧ (s.settle p q e).phase = .closed)
    ∨ (s.phase = .closed ∧ e.isFailure = true ∧ (s.settle p q e).phase = .opened)
    ∨ (s.phase = .halfOpen ∧ q.ticket = .trial
      ∧ (s.settle p q e).phase = if e.isFailure = true then .opened else .closed)
    ∨ (s.phase ≠ .closed ∧ (s.phase = .halfOpen → q.ticket = .normal)
      ∧ (s.settle p q e).phase = s.phase) := by
  have hs : (s.settle p q e).phase
    = (s.breaker.settle p s.now q.ticket e.verdict).phase := rfl
  rcases hp : s.phase with _ | _ | _
  · rw [settle_phase_of_closed hp] at hs
    split_ifs at hs with hf
    · exact .inr (.inl ⟨rfl, e.verdict_eq_failure_iff.1 hf.1, hs⟩)
    · exact .inl ⟨rfl, hs⟩
  · rw [settle_phase_of_late (by simp [hp]) (by simp [hp])] at hs
    exact .inr (.inr (.inr ⟨by simp, by simp, hs.trans hp⟩))
  · rcases ht : q.ticket with _ | _
    · rw [settle_phase_of_late (by simp [hp]) fun _ => ht] at hs
      exact .inr (.inr (.inr ⟨by simp, fun _ => rfl, hs.trans hp⟩))
    · rw [ht, settle_of_halfOpen hp] at hs
      refine .inr (.inr (.inl ⟨rfl, rfl, ?_⟩))
      by_cases hf : e.isFailure = true
      · rw [hs, if_pos hf, e.verdict_eq_failure_iff.2 hf]
      · rw [hs, if_neg hf, e.verdict_eq_success_iff.2 (by simpa using hf)]

theorem trialOut_iff_settle {s : Traffic} (hs : s.breaker.trialOut = true ↔ s.phase = .halfOpen)
    (q : Permit) (e : Ending α) :
    (s.settle p q e).breaker.trialOut = true ↔ (s.settle p q e).phase = .halfOpen := by
  have ht : (s.settle p q e).breaker.trialOut
    = if s.phase = .halfOpen ∧ q.ticket = .trial then false else s.breaker.trialOut :=
    settle_trialOut
  rw [ht]
  rcases settle_cases p s q e with ⟨hp, h⟩ | ⟨hp, -, h⟩ | ⟨hp, hq, h⟩ | ⟨-, hq, h⟩
  · simp [h, hp, hs]
  · simp [h, hp, hs]
  · rw [h, if_pos ⟨hp, hq⟩]
    split_ifs <;> simp
  · rw [h, if_neg, hs]
    rintro ⟨hp, ht⟩
    rw [hq hp] at ht
    cases ht

theorem trialOut_iff_step {s : Traffic} (hs : s.breaker.trialOut = true ↔ s.phase = .halfOpen)
    (m : Move α) : (s.step p m).breaker.trialOut = true ↔ (s.step p m).phase = .halfOpen := by
  rcases m with _ | ⟨q, e⟩ | span | _ | _
  · rcases attempt_cases p α hs with ⟨-, h⟩ | ⟨-, -, h⟩ | ⟨-, -, h⟩
    · rw [h]
      exact hs
    · rw [h]
      simp [Traffic.pass]
    · rw [step_attempt_of_none p h]
      exact hs
  · by_cases hq : q ∈ s.out
    · rw [step_settle p hq]
      exact trialOut_iff_settle p hs q e
    · rw [step_settle_of_notMem p hq]
      exact hs
  · exact hs
  · simp [Traffic.step, Breaker.reset]
  · simp [Traffic.step, Breaker.forceOpen]

/-- A breaker has a trial on record exactly while it is half open. -/
theorem trialOut_iff : ∀ h : List (Move α),
    (run p h).breaker.trialOut = true ↔ (run p h).phase = .halfOpen
  | [] => by simp [run]
  | m :: past => trialOut_iff_step p (trialOut_iff past) m

end
end SecretBroker.Breaker
