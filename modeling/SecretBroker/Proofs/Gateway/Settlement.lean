import SecretBroker.Proofs.Gateway.Carriage

/-!
# What a call settles

Between two moments of a session, a call was turned away by its operation's breaker or settled there
once (`Session.Settles`). The breaker tells which of the two it was and with what verdict
(`Session.Settles.unique`).

Calls that settle before the next one asks to go through never leave a breaker half open. A breaker
with such calls only keeps count of those that failed in a row (`Breaker.Counting`): closed, it has
seen fewer than its threshold, and opened, it knows when the last one failed.
-/

namespace SecretBroker

namespace Breaker

variable {p : Policy} {now after : Instant} {b b' : Breaker} {t : Ticket}

theorem settle_success_of_enter (h : b.enter p now = some (t, b')) (after : Instant) :
    (b'.settle p after t .success).phase = .closed
      ∧ (b'.settle p after t .success).failures = 0 := by
  rcases of_enter h with ⟨hp, rfl⟩ | ⟨-, rfl, rfl⟩
  · rw [settle_phase_of_closed hp, settle_failures_of_closed hp]
    simp
  · rw [settle_of_halfOpen rfl]
    exact ⟨rfl, rfl⟩

theorem settle_failure_of_enter (h : b.enter p now = some (t, b')) (after : Instant) :
    (b'.settle p after t .failure).failures = min (b.failures + 1) countLimit
      ∧ (b'.settle p after t .failure).phase
        = if b.phase = .closed ∧ min (b.failures + 1) countLimit < max p.threshold 1 then .closed
          else .opened := by
  rcases of_enter h with ⟨hp, rfl⟩ | ⟨hp, rfl, rfl⟩
  · rw [settle_phase_of_closed hp, settle_failures_of_closed hp, if_pos rfl]
    simp only [hp, true_and, ← Nat.not_le, ite_not]
  · rw [settle_of_halfOpen rfl, if_neg fun hc => hp hc.1]
    exact ⟨rfl, rfl⟩

/-- What is left of a call that went through shows its verdict. -/
theorem verdict_of_settle_eq (h : b.enter p now = some (t, b')) {v v' : Verdict}
    (he : b'.settle p after t v = b'.settle p after t v') : v = v' := by
  have hs := settle_success_of_enter h after
  have hf := settle_failure_of_enter h after
  have hne : b'.settle p after t .success ≠ b'.settle p after t .failure := by
    intro he
    rw [he, hf.1] at hs
    have : 1 ≤ countLimit := by decide
    omega
  rcases v with _ | _ <;> rcases v' with _ | _
  · rfl
  · exact absurd he hne
  · exact absurd he.symm hne
  · rfl

/-- With calls that settle before the next one asks to go through, `row` of them failed in a row,
and the last that failed did so at `last`. -/
structure Counting (p : Policy) (row : Nat) (last : Option Instant) (b : Breaker) : Prop where
  phase_ne : b.phase ≠ .halfOpen
  closed : b.phase = .closed → b.failures = row ∧ row < max p.threshold 1
  opened : b.phase = .opened → b.lastFailure = last ∧ last ≠ none

namespace Counting

variable {row : Nat} {last : Option Instant}

theorem new (p : Policy) (last : Option Instant) : Counting p 0 last {} where
  phase_ne := by simp
  closed := fun _ => ⟨rfl, Nat.lt_of_lt_of_le Nat.one_pos (Nat.le_max_right _ _)⟩
  opened := by simp

theorem success (h : b.enter p now = some (t, b')) :
    Counting p 0 last (b'.settle p after t .success) := by
  obtain ⟨hp, hf⟩ := settle_success_of_enter h after
  refine ⟨by simp [hp], fun _ => ⟨hf, ?_⟩, by simp [hp]⟩
  exact Nat.lt_of_lt_of_le Nat.one_pos (Nat.le_max_right _ _)

-- A threshold is a number of 32 bits, like the count, which stops at the largest of them.
theorem failure (hk : Counting p row last b) (hl : p.threshold ≤ countLimit)
    (h : b.enter p now = some (t, b')) :
    Counting p (row + 1) (some after) (b'.settle p after t .failure) := by
  obtain ⟨hf, hp⟩ := settle_failure_of_enter h after
  have hlast : (b'.settle p after t .failure).lastFailure = some after := by
    rw [settle_lastFailure, if_pos rfl]
  split at hp
  · rename_i hc
    obtain ⟨hrow, hlt⟩ := hk.closed hc.1
    rw [hrow] at hf hc
    have : 1 ≤ countLimit := by decide
    exact ⟨by simp [hp], fun _ => by omega, by simp [hp]⟩
  · exact ⟨by simp [hp], by simp [hp], fun _ => ⟨hlast, by simp⟩⟩

theorem turnedAway (hk : Counting p row last b) (h : b.enter p now = none) :
    Counting p 0 last b where
  phase_ne := hk.phase_ne
  closed := by
    intro hc
    rw [enter_of_closed hc] at h
    cases h
  opened := hk.opened

theorem opened_of_le (hk : Counting p row last b) (hr : max p.threshold 1 ≤ row) :
    ∃ f, last = some f ∧ b.phase = .opened ∧ b.lastFailure = some f := by
  have hp : b.phase = .opened := by
    rcases hp : b.phase with _ | _ | _
    · exact absurd (hk.closed hp).2 (Nat.not_lt.2 hr)
    · rfl
    · exact absurd hp hk.phase_ne
  obtain ⟨hlast, hne⟩ := hk.opened hp
  obtain ⟨f, hf⟩ := Option.ne_none_iff_exists'.1 hne
  exact ⟨f, hf, hp, hlast.trans hf⟩

end Counting
namespace Registry

variable {r r' : Registry} {name : String}

theorem get_settle_of_enter (h : r.enter name now = (some t, r')) (after : Instant) (v : Verdict) :
    ∃ b, (r.get name).enter r.policy now = some (t, b)
      ∧ (r'.settle name after t v).get name = b.settle r.policy after t v := by
  obtain ⟨b, he, rfl⟩ := of_enter_some h
  refine ⟨b, he, ?_⟩
  rw [settle, get_set, get_set]
  rfl

end Registry
end Breaker

namespace Session

/-- From `s` to `s'` a call was turned away by the breaker of its operation, or went through and
settled there with this verdict, and no breaker saw anything else. -/
inductive Settles (operation : String) (s s' : Session) : Option Breaker.Verdict → Prop
  | turnedAway (entered : (s.breakers.enter operation s.now).1 = none)
    (left : s'.breakers = s.breakers) : Settles operation s s' none
  | once {ticket : Breaker.Ticket} {breakers : Breaker.Registry} {v : Breaker.Verdict}
    (entered : s.breakers.enter operation s.now = (some ticket, breakers))
    (left : s'.breakers = breakers.settle operation s'.now ticket v) :
    Settles operation s s' (some v)

variable {operation : String} {s s' : Session} {v v' : Option Breaker.Verdict}

theorem Settles.unique (h : Settles operation s s' v) (h' : Settles operation s s' v') :
    v = v' := by
  rcases h with ⟨he, -⟩ | @⟨ticket, breakers, v, he, hl⟩
  · rcases h' with _ | ⟨he', -⟩
    · rfl
    · rw [he'] at he
      cases he
  · rcases h' with ⟨he', -⟩ | @⟨_, _, v', he', hl'⟩
    · rw [he] at he'
      cases he'
    · rw [he] at he'
      cases he'
      obtain ⟨b, hb, hs⟩ := Breaker.Registry.get_settle_of_enter he s'.now v
      obtain ⟨b', hb', hs'⟩ := Breaker.Registry.get_settle_of_enter he s'.now v'
      rw [hb] at hb'
      cases hb'
      rw [← hl] at hs
      rw [← hl'] at hs'
      rw [Breaker.verdict_of_settle_eq hb (hs.symm.trans hs')]

theorem Settles.counting {row : Nat} {last : Option Instant} (h : Settles operation s s' v)
    (hl : s.breakers.policy.threshold ≤ Breaker.countLimit)
    (hk : Breaker.Counting s.breakers.policy row last (s.breakers.get operation)) :
    Breaker.Counting s.breakers.policy (if v = some .failure then row + 1 else 0)
      (if v = some .failure then some s'.now else last) (s'.breakers.get operation) := by
  rcases h with ⟨he, hleft⟩ | @⟨_, _, v, he, hleft⟩
  · rw [hleft]
    exact hk.turnedAway (Breaker.Registry.of_enter_none he)
  · obtain ⟨b, hb, hs⟩ := Breaker.Registry.get_settle_of_enter he s'.now v
    rw [hleft, hs]
    rcases v with _ | _
    · exact .success hb
    · exact hk.failure hl hb

end Session

/-- What a call comes to is what its breaker was told: a response is a success, and an error or no
result at all a failure, unless the error is that the call was turned away. -/
theorem Transport.Carried.settles {t : Transport} {c : Call} {s s' : Session}
    {r : Option (Except GatewayError Response)} (h : t.Carried c s r s') :
    (r = some (.error (.circuitOpen c.operation)) ∧ s.Settles c.operation s' none)
    ∨ ((∃ response, r = some (.ok response)) ∧ s.Settles c.operation s' (some .success))
    ∨ ((r = none ∨ ∃ e, r = some (.error e) ∧ e.countsAsFailure = true)
      ∧ s.Settles c.operation s' (some .failure)) := by
  rcases h with he | @⟨_, _, n, _, he, -, -, hl⟩ | ⟨-, he, -, hl⟩
  · exact .inl ⟨rfl, .turnedAway he rfl⟩
  · have hs := Session.Settles.once he hl
    rcases ending_cases (t := t) (c := c) s (n - 1) with hi | ⟨status, -, hu⟩ | ⟨response, hr⟩
    · rw [verdict_of_isIndefinite hi] at hs
      refine .inr (.inr ⟨.inr ?_, hs⟩)
      rcases hx : t.ending c s (n - 1) with e | response
      · rw [hx, isIndefinite_error] at hi
        exact ⟨e, rfl, GatewayError.countsAsFailure_of_isRetryable hi⟩
      · rw [hx] at hi
        cases hi
    · rw [hu] at hs ⊢
      exact .inr (.inr ⟨.inr ⟨_, rfl, rfl⟩, hs⟩)
    · rw [hr] at hs ⊢
      exact .inr (.inl ⟨⟨_, rfl⟩, hs⟩)
  · exact .inr (.inr ⟨.inl rfl, .once he hl⟩)

theorem Transport.execute_of_turnedAway {c : Call} {s : Session} (t : Transport)
    (h : (s.breakers.enter c.operation s.now).1 = none) :
    t.execute c s = (some (.error (.circuitOpen c.operation)), s) := by
  have hc := t.carried c s
  rcases hx : t.execute c s with ⟨r, s'⟩
  rw [hx] at hc
  rcases hc with _ | ⟨he, -, -, -⟩ | ⟨-, he, -, -⟩
  · rfl
  · rw [he] at h
    cases h
  · rw [he] at h
    cases h

end SecretBroker
