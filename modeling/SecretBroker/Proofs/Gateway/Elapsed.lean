import SecretBroker.Proofs.Gateway.Expense
import SecretBroker.Proofs.Gateway.Provision

/-!
# How long a call takes

A call that is let in makes attempts until one decides it (`Gateway.Decided`), and takes the time of
these attempts and of the pauses between them, to the nanosecond (`Gateway.Decided.now_eq`). An
attempt takes as long as its answer, but no longer than the timeout; where no answer is to be waited
for it takes no time.
-/

namespace SecretBroker

namespace Exchange

variable {span : Duration} {s s' : Session}

theorem now_of_wait (h : wait span s = (some (), s')) : s'.now = s.now + span.toNanos := by
  unfold wait at h
  rcases hd : s.deadline with _ | t
  · simp only [hd] at h
    cases h
    rfl
  · simp only [hd] at h
    split at h
    · cases h
    · cases h
      rfl

theorem now_of_wait_then {α : Type} {a r : α}
    (h : (do wait span; return a : Exchange α) s = (some r, s')) :
    s'.now = s.now + span.toNanos := by
  rcases bind_cases h with ⟨-, hr⟩ | ⟨_, s₁, hw, h⟩
  · cases hr
  · cases h
    exact now_of_wait hw

end Exchange

namespace Transport

variable (t : Transport) (c : Call)

/-- How many nanoseconds an attempt waits for what arrives. -/
def awaits : Arrival → Nat
  | .answer _ _ delay => min delay.toNanos (t.timeout c.method).toNanos
  | .silence => (t.timeout c.method).toNanos
  | .lost | .brokenOff | .unreachable _ => 0

/-- How many nanoseconds attempt number `i` at the call takes, the first being number zero. -/
def took (s : Session) (i : Nat) : Nat :=
  if (c.request t.agent).url.isHttp then t.awaits c (s.arrival i (c.request t.agent)) else 0

/-- How many nanoseconds `n` attempts at the call take, and the pauses between them, for which draws
are made one after the other. -/
def lasts (s : Session) (n : Nat) : Nat :=
  ∑ i ∈ Finset.range n, t.took c s i
    + ∑ i ∈ Finset.Ico 1 n, (t.retry.delay i (s.draws (i - 1)).value).toNanos

variable {t : Transport} {c : Call} {s s' : Session}

theorem now_of_attempt {r : Except GatewayError Response} (h : t.attempt c s = (some r, s')) :
    s'.now = s.now + t.took c s 0 := by
  unfold attempt at h
  dsimp only at h
  unfold took
  by_cases hu : (c.request t.agent).url.isHttp = true
  · rw [if_pos hu]
    rw [hu, Bool.not_true, if_neg Bool.false_ne_true] at h
    rcases bind_cases h with ⟨-, hr⟩ | ⟨a, s₁, hs, h⟩
    · cases hr
    have hnow : s₁.now = s.now := by
      have h₁ := Exchange.send_now (c.request t.agent) s
      rwa [hs] at h₁
    obtain ⟨ha, -, -⟩ := Exchange.send_cases hs
    cases ha
    rw [← hnow]
    generalize s.arrival 0 (c.request t.agent) = a at h ⊢
    rcases a with ⟨status, body, delay⟩ | _ | _ | _ | causes
    · dsimp only [awaits] at h ⊢
      by_cases hd : t.timeout c.method < delay
      · rw [if_pos hd] at h
        rw [Exchange.now_of_wait_then h, Nat.min_eq_right (Nat.le_of_lt hd)]
      · rw [if_neg hd] at h
        rw [Exchange.now_of_wait_then h, Nat.min_eq_left (Nat.le_of_not_lt hd)]
    · exact Exchange.now_of_wait_then h
    · cases h
      rfl
    · cases h
      rfl
    · cases h
      rfl
  · rw [if_neg hu]
    rw [Bool.not_eq_true] at hu
    rw [hu, Bool.not_false, if_pos rfl] at h
    cases h
    rfl

/-- Behind one attempt, the others take as long as they do in the session that it leaves. -/
theorem took_succ (h : s.Made (t.trips c s 1) s') (i : Nat) :
    t.took c s' i = t.took c s (i + 1) := by
  unfold took
  by_cases hu : (c.request t.agent).url.isHttp = true
  · rw [trips_of_isHttp hu] at h
    rw [if_pos hu, if_pos hu, h.arrival_add, Nat.add_comm]
    rfl
  · rw [if_neg hu, if_neg hu]

/-- An attempt that has others left behind it: it came to something definite and is the last one, or
the next one is made after the pause. -/
theorem attemptFrom_succ_cases {p : RetryPolicy} {left k : Nat} {r : Except GatewayError Response}
    (h : p.attemptFrom (t.attempt c) Exchange.wait Exchange.draw (left + 1) k s = (some r, s')) :
    (isIndefinite (t.ending c s 0) = false ∧ s'.now = s.now + t.took c s 0)
    ∨ (isIndefinite (t.ending c s 0) = true ∧ ∃ mid, s.Made (t.trips c s 1) mid
      ∧ mid.now = s.now + t.took c s 0 + (p.delay k (s.draws 0).value).toNanos
      ∧ mid.draws = (fun i => s.draws (i + 1))
      ∧ p.attemptFrom (t.attempt c) Exchange.wait Exchange.draw left (k + 1) mid
        = (some r, s')) := by
  unfold RetryPolicy.attemptFrom at h
  rcases bind_cases h with ⟨-, hr⟩ | ⟨a, s₁, ha, hrest⟩
  · cases hr
  have hnow := now_of_attempt ha
  obtain ⟨⟨-, hdraws⟩, hm, hr | ⟨hr, -⟩⟩ := attempt_cases ha
  swap
  · cases hr
  obtain rfl := Option.some.inj hr
  rcases he : t.ending c s 0 with e | x
  · rw [he] at hrest
    rw [isIndefinite_error]
    by_cases hretry : e.isRetryable = true
    · dsimp only at hrest
      rw [if_pos hretry] at hrest
      rcases bind_cases hrest with ⟨-, hr⟩ | ⟨_, s₂, hw, hmore⟩
      · cases hr
      rw [Exchange.rest_apply, hdraws] at hw
      have hwait := Exchange.now_of_wait hw
      obtain ⟨⟨now, rfl⟩, -⟩ := Exchange.wait_cases hw
      exact .inr ⟨hretry, _, hm.with_others now s₁.breakers _, hwait.trans (by rw [hnow]), rfl, hmore⟩
    · dsimp only at hrest
      rw [if_neg hretry] at hrest
      cases hrest
      exact .inl ⟨Bool.eq_false_iff.2 hretry, hnow⟩
  · rw [he] at hrest
    cases hrest
    exact .inl ⟨rfl, hnow⟩

/-- The induction is on the attempts that are left behind number `k`; the `n`-th from there decides
the call. -/
theorem now_of_attemptFrom (p : RetryPolicy) {r : Except GatewayError Response} :
    ∀ (left : Nat) {k n : Nat} {s : Session},
    p.attemptFrom (t.attempt c) Exchange.wait Exchange.draw left k s = (some r, s') →
    0 < n → n ≤ left + 1 →
    (∀ i, i + 1 < n → isIndefinite (t.ending c s i) = true) →
    (n = left + 1 ∨ isIndefinite (t.ending c s (n - 1)) = false) →
    s'.now = s.now + (∑ i ∈ Finset.range n, t.took c s i
      + ∑ i ∈ Finset.range (n - 1), (p.delay (k + i) (s.draws i).value).toNanos)
  | 0, k, n, s, h, hpos, hn, _, _ => by
    obtain rfl : n = 1 := by omega
    rw [now_of_attempt h, Finset.sum_range_one]
    rfl
  | left + 1, k, n, s, h, hpos, hn, hi, hl => by
    obtain ⟨m, rfl⟩ := Nat.exists_eq_succ_of_ne_zero (Nat.ne_of_gt hpos)
    rcases attemptFrom_succ_cases h with ⟨hdef, hnow⟩ | ⟨hdef, mid, hm, hmid, hdraws, hmore⟩
    · have hm0 : m = 0 := by
        by_contra hne
        rw [hi 0 (by omega)] at hdef
        cases hdef
      rw [hm0, Finset.sum_range_one, Finset.sum_range_zero, Nat.add_zero, hnow]
    · have hm0 : m ≠ 0 := by
        rintro rfl
        rcases hl with hl | hl
        · omega
        · rw [hdef] at hl
          cases hl
      obtain ⟨m, rfl⟩ := Nat.exists_eq_succ_of_ne_zero hm0
      have ih := now_of_attemptFrom p left hmore (Nat.succ_pos m) (by omega)
        (fun i h => by rw [ending_succ hm]; exact hi (i + 1) (by omega))
        (by
          rw [ending_succ hm]
          exact hl.imp_left fun h => by omega)
      rw [ih, hmid, hdraws]
      simp only [took_succ hm, Nat.succ_eq_add_one, Nat.add_sub_cancel]
      rw [Finset.sum_range_succ' (t.took c s) (m + 1),
        Finset.sum_range_succ' (fun i => (p.delay (k + i) (s.draws i).value).toNanos) m]
      simp only [Nat.add_assoc, Nat.add_comm 1, Nat.add_zero]
      ring

end Transport

namespace Gateway

/-- The call comes about, its breaker lets it in, and attempt number `n` decides it: nothing definite
came of those before, and it came to something definite or was the last one. -/
structure Decided (g : Gateway) (call : Except GatewayError Call) (s : Session) (c : Call) (n : Nat) :
    Prop where
  made : call = .ok c
  entered : (s.breakers.enter c.operation s.now).1 ≠ none
  pos : 0 < n
  le : n ≤ g.transport.allowance c
  indefinite : ∀ i, i + 1 < n → Transport.isIndefinite (g.transport.ending c s i) = true
  last : n = g.transport.allowance c
    ∨ Transport.isIndefinite (g.transport.ending c s (n - 1)) = false

variable {g : Gateway} {call : Except GatewayError Call} {s s' : Session} {c : Call} {n : Nat}

theorem Decided.ends (h : g.Decided call s c n) :
    g.Ends call s (g.transport.ending c s (n - 1)) :=
  .decided h.made h.entered h.pos h.le h.indefinite h.last

/-- A call that brings a response was decided by an attempt. -/
theorem Ends.decided_of_ok {r : Response} (h : g.Ends call s (.ok r)) :
    ∃ c n, g.Decided call s c n ∧ g.transport.ending c s (n - 1) = .ok r := by
  generalize hx : Except.ok r = x at h
  rcases h with _ | _ | @⟨c, n, hc, he, hpos, hn, hi, hl⟩
  · cases hx
  · cases hx
  · exact ⟨c, n, ⟨hc, he, hpos, hn, hi, hl⟩, rfl⟩

/-- A call that is let in takes the time of its attempts and of the pauses between them. -/
theorem Decided.now_eq {x : Except GatewayError Response} (h : g.Decided call s c n)
    (hx : g.put call s = (some x, s')) : s'.now = s.now + g.transport.lasts c s n := by
  rw [h.made] at hx
  have hexec : g.transport.execute c s = (some x, s') := hx
  unfold Transport.execute Exchange.guarded at hexec
  rcases he : s.breakers.enter c.operation s.now with ⟨_ | ticket, breakers⟩
  · exact absurd (congrArg Prod.fst he) h.entered
  rw [he] at hexec
  dsimp only at hexec
  rcases hb : (if c.repeatable then g.transport.retry else .once).execute
    (g.transport.attempt c) Exchange.wait Exchange.draw { s with breakers } with ⟨_ | r, s₁⟩
  · rw [hb] at hexec
    cases hexec
  rw [hb] at hexec
  cases hexec
  have hcap : max (if c.repeatable then g.transport.retry else .once).maxAttempts 1 - 1 + 1
      = g.transport.allowance c := by
    unfold Transport.allowance
    split
    · omega
    · rfl
  have hnow := Transport.now_of_attemptFrom _ _ hb h.pos (hcap ▸ h.le) h.indefinite
    (hcap ▸ h.last)
  dsimp only at hnow ⊢
  rw [hnow, Transport.lasts, Finset.sum_Ico_eq_sum_range]
  by_cases hr : c.repeatable = true
  · rw [if_pos hr]
    simp only [Nat.add_sub_cancel_left]
    rfl
  · -- A call that must not be repeated has one attempt, and so no pause.
    have hone : n = 1 := by
      have hle := h.le
      rw [Transport.allowance, if_neg hr] at hle
      exact Nat.le_antisymm hle h.pos
    rw [hone, Nat.sub_self, Finset.sum_range_zero, Finset.sum_range_zero]
    rfl

end Gateway
end SecretBroker
