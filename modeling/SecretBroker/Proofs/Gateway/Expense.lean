import Mathlib.Algebra.Order.BigOperators.Group.List
import SecretBroker.Proofs.Gateway.Course
import SecretBroker.Proofs.Retry.Delay

/-!
# What a call may cost

`Session.Within n t` says that between two moments of a session at most `n` requests are made and at
most `t` nanoseconds pass. What is done in turn costs what its parts cost together. An attempt
costs one request and at most its timeout; a call costs its attempts and the delays between them
(`within_execute`), and whatever else is asked costs what the operations in it do (`course_within`).
What bounds the delays, `ceiling`, is for the retry policy to say.
-/

namespace SecretBroker

namespace Session

/-- From `s` to `s'` at most `requests` are made and at most `span` nanoseconds pass. -/
structure Within (requests span : Nat) (s s' : Session) : Prop where
  now_le : s'.now ≤ s.now + span
  made : ∃ trips, s.Made trips s' ∧ trips.length ≤ requests

namespace Within

variable {m n t u : Nat} {s s₁ s' : Session}

instance : Std.Refl (Within n t) :=
  ⟨fun s => ⟨Nat.le_add_right _ _, [], .refl s, Nat.zero_le _⟩⟩

theorem mono (h : Within m t s s') (hn : m ≤ n) (ht : t ≤ u) : Within n u s s' where
  now_le := Nat.le_trans h.now_le (Nat.add_le_add_left ht _)
  made := by
    obtain ⟨trips, hm, hl⟩ := h.made
    exact ⟨trips, hm, Nat.le_trans hl hn⟩

theorem trans (h : Within m t s s₁) (h' : Within n u s₁ s') : Within (m + n) (t + u) s s' where
  now_le := by
    refine Nat.le_trans h'.now_le ?_
    rw [← Nat.add_assoc]
    exact Nat.add_le_add_right h.now_le u
  made := by
    obtain ⟨trips, hm, hl⟩ := h.made
    obtain ⟨trips', hm', hl'⟩ := h'.made
    refine ⟨trips ++ trips', hm.trans hm', ?_⟩
    rw [List.length_append]
    exact Nat.add_le_add hl hl'

theorem with_breakers (breakers breakers' : Breaker.Registry)
    (h : Within n t { s with breakers } s') : Within n t s { s' with breakers := breakers' } where
  now_le := h.now_le
  made := by
    obtain ⟨trips, hm, hl⟩ := h.made
    exact ⟨trips, hm.of_with_breakers.with_others s'.now breakers' s'.draws, hl⟩

end Within

section
variable {m n k t u v : Nat} {α β : Type}

theorem within_bind {x : Exchange α} {f : α → Exchange β} (hx : Leads (Within m t) x)
    (hf : ∀ a, Leads (Within n u) (f a)) (hk : m + n ≤ k) (hv : t + u ≤ v) :
    Leads (Within k v) (x >>= f : Exchange β) :=
  .seq (fun _ _ h => h.mono (Nat.le_of_add_right_le hk) (Nat.le_of_add_right_le hv))
    (fun _ _ _ h h' => (h.trans h').mono hk hv) hx hf

theorem within_mono {x : Session → α × Session} (hx : Leads (Within m t) x) (hk : m ≤ k)
    (hv : t ≤ v) : Leads (Within k v) x :=
  fun s => (hx s).mono hk hv

end
end Session

open Session

namespace Exchange

theorem wait_now_le (span : Duration) (s : Session) :
    (wait span s).2.now ≤ s.now + span.toNanos := by
  unfold wait
  dsimp only
  split
  · split
    · rename_i ht
      exact Nat.max_le.2 ⟨Nat.le_add_right _ _, Nat.le_of_lt ht⟩
    · exact Nat.le_refl _
  · exact Nat.le_refl _

theorem within_wait (span : Duration) : Leads (Within 0 span.toNanos) (wait span) := by
  intro s
  rcases h : wait span s with ⟨r, s'⟩
  obtain ⟨⟨now, rfl⟩, -⟩ := wait_cases h
  have hnow := wait_now_le span s
  rw [h] at hnow
  exact ⟨hnow, [], (Made.refl s).with_others now s.breakers s.draws, Nat.le_refl 0⟩

theorem within_wait_then {α : Type} (span : Duration) (a : α) :
    Leads (Within 0 span.toNanos) (do wait span; return a : Exchange α) :=
  within_bind (n := 0) (u := 0) (within_wait span) (fun _ => .pure a) (Nat.le_refl 0)
    (Nat.le_of_eq (Nat.add_zero _))

theorem within_rest {p : RetryPolicy} {ceiling : Nat → Nat} (hp : p.Under ceiling) {retry : Nat}
    (hr : 0 < retry) : Leads (Within 0 (ceiling retry)) (p.rest wait draw retry) := by
  have hdraw : Leads (Within 0 0) draw := fun s => {
    now_le := Nat.le_refl _
    made := ⟨[], (Made.refl s).with_others s.now s.breakers fun i => s.draws (i + 1), Nat.le_refl 0⟩ }
  exact within_bind hdraw
    (fun d => within_mono (within_wait _) (Nat.le_refl 0) (hp retry d hr)) (Nat.le_refl 0)
    (Nat.le_of_eq (Nat.zero_add _))

theorem send_now (r : Request) (s : Session) : (send r s).2.now = s.now := by
  unfold send
  rcases s.script with _ | ⟨a, rest⟩ <;> rfl

theorem within_send (r : Request) : Leads (Within 1 0) (send r) := by
  intro s
  obtain ⟨-, -, hm⟩ := send_cases (rfl : send r s = _)
  exact ⟨Nat.le_of_eq (send_now r s), _, hm, Nat.le_refl 1⟩

theorem within_guarded {n t : Nat} {α : Type} (operation : String)
    {body : Exchange (Except GatewayError α)} (hb : Leads (Within n t) body) :
    Leads (Within n t) (guarded operation body) := by
  intro s
  unfold guarded
  rcases s.breakers.enter operation s.now with ⟨_ | ticket, breakers⟩
  · exact (Std.Refl.refl s : Within n t s s).with_breakers s.breakers breakers
  · have hs := hb { s with breakers }
    dsimp only
    rcases hx : body { s with breakers } with ⟨_ | result, s₁⟩
    · rw [hx] at hs
      exact hs.with_breakers breakers _
    · rw [hx] at hs
      exact hs.with_breakers breakers _

end Exchange

namespace Transport

variable (t : Transport) (c : Call) {ceiling : Nat → Nat}

/-- How often a call that may be repeated is attempted at most. -/
def attempts : Nat := max t.retry.maxAttempts 1

/-- How many nanoseconds a call that may be repeated takes at most. -/
def longest (ceiling : Nat → Nat) (m : Method) : Nat :=
  t.attempts * (t.timeout m).toNanos + ∑ i ∈ Finset.Ico 1 t.attempts, ceiling i

theorem within_attempt : Leads (Within 1 (t.timeout c.method).toNanos) (t.attempt c) := by
  have hlate := Exchange.within_wait_then (t.timeout c.method)
    (Except.error (.timeout c.operation c.timeoutText) : Except GatewayError Response)
  unfold attempt
  dsimp only
  split
  · exact .pure _
  · refine within_bind (n := 0) (Exchange.within_send _) (fun a => ?_) (Nat.le_refl 1)
      (Nat.le_of_eq (Nat.zero_add _))
    rcases a with ⟨status, body, delay⟩ | _ | _ | _ | causes
    · dsimp only
      split
      · exact hlate
      · rename_i hd
        exact within_mono (Exchange.within_wait_then delay _) (Nat.le_refl 0) (Nat.le_of_not_lt hd)
    · exact hlate
    · exact .pure _
    · exact .pure _
    · exact .pure _

/-- The attempts from number `n` on, of which `left` lie behind that one, cost a request and a
timeout each, and the delays in between. -/
theorem within_attemptFrom {p : RetryPolicy} (hp : p.Under ceiling) : ∀ (left : Nat) {n : Nat}, 0 < n →
    Leads (Within (left + 1)
        ((left + 1) * (t.timeout c.method).toNanos + ∑ i ∈ Finset.Ico n (n + left), ceiling i))
      (p.attemptFrom (t.attempt c) Exchange.wait Exchange.draw left n)
  | 0, n, _ => by
    refine within_mono (t.within_attempt c) (Nat.le_refl 1) ?_
    rw [Nat.zero_add, Nat.one_mul]
    exact Nat.le_add_right _ _
  | left + 1, n, hn => by
    have ih := within_attemptFrom hp left (Nat.lt_succ_of_lt hn)
    have hs : n + (left + 1) = n + 1 + left := by omega
    rw [Finset.sum_eq_sum_Ico_succ_bot (Nat.lt_add_of_pos_right left.succ_pos), hs,
      Nat.succ_mul (left + 1)]
    refine within_bind (t.within_attempt c) (fun r => ?_) (Nat.le_of_eq (Nat.add_comm 1 (left + 1)))
      (Nat.le_of_eq (Nat.add_comm _ _ |>.trans (Nat.add_right_comm _ _ _)))
    rcases r with e | r
    · dsimp only
      split
      · exact within_bind (Exchange.within_rest hp hn) (fun _ => ih) (Nat.le_of_eq (Nat.zero_add _))
          (Nat.le_of_eq (Nat.add_left_comm _ _ _))
      · exact .pure _
    · exact .pure _

/-- How many requests a call of the operation makes at most. -/
def tries (op : Operation) : Nat := if op = .secretCreate then 1 else t.attempts

/-- How many nanoseconds a call of the operation takes at most. -/
def span (ceiling : Nat → Nat) (op : Operation) : Nat :=
  if op = .secretCreate then t.writeTimeout.toNanos else t.longest ceiling op.method

section
variable (hp : t.retry.Under ceiling)
include hp

theorem within_execute : Leads (Within (t.allowance c)
    (t.allowance c * (t.timeout c.method).toNanos + ∑ i ∈ Finset.Ico 1 (t.allowance c), ceiling i))
    (t.execute c) := by
  refine Exchange.within_guarded _ ?_
  unfold RetryPolicy.execute
  by_cases hr : c.repeatable = true
  · have h := t.within_attemptFrom c hp (max t.retry.maxAttempts 1 - 1) Nat.one_pos
    rw [Nat.sub_add_cancel (Nat.le_max_right _ _), Nat.add_sub_cancel' (Nat.le_max_right _ _)] at h
    rw [allowance, if_pos hr, if_pos hr]
    exact h
  · have hl : max RetryPolicy.once.maxAttempts 1 - 1 = 0 := rfl
    rw [allowance, if_neg hr, if_neg hr, Nat.one_mul, Finset.Ico_self, Finset.sum_empty, hl,
      Nat.add_zero, RetryPolicy.attemptFrom]
    exact t.within_attempt c

theorem within_repeatable {c : Call} (hr : c.repeatable = true) :
    Leads (Within t.attempts (t.longest ceiling c.method)) (t.execute c) := by
  have h := t.within_execute c hp
  rwa [allowance, if_pos hr] at h

theorem within_once {c : Call} (hr : c.repeatable = false) :
    Leads (Within 1 (t.timeout c.method).toNanos) (t.execute c) := by
  have h := t.within_execute c hp
  rwa [allowance, hr, if_neg Bool.false_ne_true, Nat.one_mul, Finset.Ico_self, Finset.sum_empty,
    Nat.add_zero] at h

theorem within_belongs {op : Operation} {c : Call} (hc : c.Belongs op) :
    Leads (Within (t.tries op) (t.span ceiling op)) (t.execute c) := by
  by_cases ho : op = .secretCreate
  · subst ho
    have h := t.within_once hp hc.repeatable
    rwa [hc.method] at h
  · have h := t.within_repeatable hp (hc.repeatable.trans (bne_iff_ne.2 ho))
    rw [tries, span, if_neg ho, if_neg ho]
    rwa [hc.method] at h

/-- What is done costs as much as the operations that are used. -/
theorem course_within :
    Course t fun l => Within (l.map t.tries).sum (l.map (t.span ceiling)).sum where
  refl _ := Std.Refl.refl _
  trans h h' := by
    rw [List.map_append, List.map_append, List.sum_append, List.sum_append]
    exact h.trans h'
  more hl h := h.mono ((hl.map t.tries).sum_le_sum fun _ _ => Nat.zero_le _)
    ((hl.map (t.span ceiling)).sum_le_sum fun _ _ => Nat.zero_le _)
  execute hc := t.within_belongs hp hc

end

theorem tries_of_ne {op : Operation} (h : op ≠ .secretCreate) : t.tries op = t.attempts := if_neg h

theorem span_of_ne {op : Operation} (h : op ≠ .secretCreate) :
    t.span ceiling op = t.longest ceiling op.method :=
  if_neg h

theorem not_mem_stages_of_ne {p : Plane} {op : Operation} (h : op ∈ Gateway.stages p) :
    op ≠ .secretCreate := by
  rintro rfl
  exact (Gateway.not_mem_stages p).2 h

/-- Behind the way to a consumer's id, one more operation adds its own. -/
theorem sum_map_append (f : Operation → Nat) (p : Plane) (op : Operation) :
    ((Gateway.stages p ++ [op]).map f).sum = ((Gateway.stages p).map f).sum + f op := by
  rw [List.map_append, List.sum_append, List.map_singleton, List.sum_singleton]

/-- On the way one call writes and three read. -/
theorem sum_map_stages (f : Method → Nat) (p : ControlPlane) :
    ((Gateway.stages (.cloud p)).map fun op => f op.method).sum = 3 * f .get + f .post := by
  simp only [Gateway.stages, List.map_cons, List.map_nil, List.sum_cons, List.sum_nil,
    Operation.method]
  omega

theorem sum_tries_stages (p : ControlPlane) :
    ((Gateway.stages (.cloud p)).map t.tries).sum = 3 * t.attempts + t.attempts := by
  rw [List.map_congr_left fun op h => t.tries_of_ne (not_mem_stages_of_ne h)]
  exact sum_map_stages (fun _ => t.attempts) p

theorem sum_span_stages (p : ControlPlane) : ((Gateway.stages (.cloud p)).map (t.span ceiling)).sum
    = 3 * t.longest ceiling .get + t.longest ceiling .post := by
  rw [List.map_congr_left fun op h => t.span_of_ne (not_mem_stages_of_ne h)]
  exact sum_map_stages (t.longest ceiling) p

end Transport
end SecretBroker
