import Mathlib.Algebra.BigOperators.Ring.Finset
import Mathlib.Algebra.Order.BigOperators.Group.Finset
import SecretBroker.Proofs.Broker.Sessionwise
import SecretBroker.Proofs.Gateway.Expense

/-!
# What a question may cost

Whoever asks the broker something gets an end of it in a time that the gateway has no say in: the
time and the requests of a question are bounded by the attempts at a call, the timeouts and the
delays between attempts (`cost_bounded`). What the cache answers costs nothing. With jitter the
delays are for chance to say as well, and a question may take longer (`health_strays`).
-/

namespace SecretBroker.Broker

/-- A broker makes at most `requests`, and at most `span` nanoseconds pass. -/
def Within (requests span : Nat) (s s' : State) : Prop :=
  s.session.Within requests span s'.session

section
variable {b : Broker} {ceiling : Nat → Nat} (hp : b.gateway.transport.retry.Under ceiling)
include hp

theorem within_health (s : State) : Within b.gateway.transport.attempts
    (b.gateway.transport.longest ceiling .get) s (b.health s).2 := by
  have h := b.course_health (b.gateway.transport.course_within hp) s
  rw [List.map_singleton, List.sum_singleton, List.map_singleton, List.sum_singleton] at h
  exact h

theorem within_get (id : String) (s : State) :
    Within (((Gateway.stages b.gateway.access.plane).map b.gateway.transport.tries).sum
        + b.gateway.transport.attempts)
      (((Gateway.stages b.gateway.access.plane).map (b.gateway.transport.span ceiling)).sum
        + b.gateway.transport.longest ceiling .get) s (b.get id s).2 := by
  have h := b.course_get (b.gateway.transport.course_within hp) id s
  rw [Transport.sum_map_append, Transport.sum_map_append] at h
  exact h

theorem within_create (id : String) (fresh : NewCredential) (s : State) :
    Within (((Gateway.stages b.gateway.access.plane).map b.gateway.transport.tries).sum + 1)
      (((Gateway.stages b.gateway.access.plane).map (b.gateway.transport.span ceiling)).sum
        + b.gateway.transport.writeTimeout.toNanos) s (b.create id fresh s).2 := by
  have h := b.course_create (b.gateway.transport.course_within hp) id fresh s
  rw [Transport.sum_map_append, Transport.sum_map_append] at h
  exact h

end

/-- Whatever the gateway answers or fails to answer, and whatever is drawn, no question takes more
requests or more nanoseconds than this, where a call is attempted `n` times at most, `r` and `w` are
how long one that reads and one that writes may take, and no more than `d` lies between the
attempts. Without jitter `d` is the sum of the delays. With jitter it is twice that at most, unless
the longest delay is longer than a hundred thousand years. -/
theorem cost_bounded (b : Broker) :
    let p := b.gateway.transport.retry
    let n := max 1 p.maxAttempts
    let r := b.gateway.transport.readTimeout.toNanos
    let w := b.gateway.transport.writeTimeout.toNanos
    let steady := ∑ i ∈ Finset.Ico 1 n, min (i * p.baseDelay.toNanos) p.maxDelay.toNanos
    ∃ d, (p.jitter ≤ 0 → d = steady)
    ∧ (p.maxDelay.toMillis ≤ 2 ^ 53 → d ≤ 2 * steady)
    ∧ ∀ (id : String) (fresh : NewCredential) (s : State), Within n (n * r + d) s (b.health s).2
    ∧ (b.mode = .admin → Within n (n * r + d) s (b.get id s).2
      ∧ Within 1 w s (b.create id fresh s).2)
    ∧ (b.mode = .cloud → Within (5 * n) (4 * (n * r + d) + (n * w + d)) s (b.get id s).2
      ∧ Within (4 * n + 1) (3 * (n * r + d) + (n * w + d) + w) s (b.create id fresh s).2) := by
  intro p n r w steady
  obtain ⟨ceiling, hp, hj, htwice⟩ := p.exists_under
  refine ⟨∑ i ∈ Finset.Ico 1 n, ceiling i, fun h => by rw [hj h], fun h => ?_, fun id fresh s => ?_⟩
  · rw [Finset.mul_sum]
    exact Finset.sum_le_sum fun i hi => htwice h i (Finset.mem_Ico.1 hi).1
  generalize hd : ∑ i ∈ Finset.Ico 1 n, ceiling i = d
  have hn : b.gateway.transport.attempts = n := Nat.max_comm _ _
  have hread : b.gateway.transport.longest ceiling .get = n * r + d := by
    rw [Transport.longest, hn, hd]
    rfl
  have hwrite : b.gateway.transport.longest ceiling .post = n * w + d := by
    rw [Transport.longest, hn, hd]
    rfl
  have hhealth := within_health hp s
  have hget := within_get hp id s
  have hcreate := within_create hp id fresh s
  have hw : b.gateway.transport.writeTimeout.toNanos = w := rfl
  rw [hn, hread] at hhealth hget
  rw [hw] at hcreate
  generalize n * r + d = reading at hread hhealth hget ⊢
  generalize n * w + d = writing at hwrite ⊢
  refine ⟨hhealth, fun ha => ?_, fun ha => ?_⟩
  · rcases hplane : b.gateway.access.plane with _ | plane
    · rw [hplane, Gateway.stages, List.map_nil, List.map_nil, List.sum_nil] at hget hcreate
      exact ⟨hget.mono (Nat.zero_add _).le (Nat.zero_add _).le,
        hcreate.mono (Nat.zero_add _).le (Nat.zero_add _).le⟩
    · rw [mode, Access.mode, hplane] at ha
      cases ha
  · rcases hplane : b.gateway.access.plane with _ | plane
    · rw [mode, Access.mode, hplane] at ha
      cases ha
    · rw [hplane, Transport.sum_tries_stages, Transport.sum_span_stages, hn, hread, hwrite]
        at hget hcreate
      exact ⟨hget.mono (by omega) (by omega), hcreate.mono (by omega) (by omega)⟩

/-- At every stage the gateway is silent first and answers at the last moment then, but for the end,
where it does not answer at all. -/
def dragged : State where
  session := { script := [
    fun _ => .silence, fun _ => .answer 404 "" (.ofSecs 5),
    fun _ => .silence, fun _ => .answer 201 "" (.ofSecs 10),
    fun _ => .silence, fun _ => .answer 404 "" (.ofSecs 5),
    fun _ => .silence,
    fun _ => .answer 200 "\x7b\"data\":[\x7b\"username\":\"a\",\"id\":\"b\"\x7d]\x7d" (.ofSecs 5),
    fun _ => .silence, fun _ => .silence] }

/-- A broker without a control plane, whose delays may be twice as long as they would be without
jitter. -/
def ofChance : Broker where
  gateway := {
    access := { base := "http://[::1]:8001", token := none, plane := .admin }
    transport := { retry := { jitter := 1 } } }

/-- The gateway is silent, and the delay is as long as it may be. -/
def unlucky : State where
  session := { later := fun _ => .silence, draws := fun _ => .greatest }

/-- The bounds are reached. -/
theorem cost_bounded_dragged :
    (ofLocalPlane.gateway.transport.retry.jitter ≤ 0
      ∧ ofLocalPlane.mode = .cloud
      ∧ Within 10 60500000000 dragged (ofLocalPlane.get "a" dragged).2
      ∧ (ofLocalPlane.get "a" dragged).2.session.now = 60500000000
      ∧ (ofLocalPlane.get "a" dragged).2.session.sent.length = 10)
    ∧ ofChance.gateway.transport.retry.maxDelay.toMillis ≤ 2 ^ 53
    ∧ Within 2 10200000000 unlucky (ofChance.health unlucky).2
    ∧ (ofChance.health unlucky).2.session.now = 10200000000 := by
  have hj : ofLocalPlane.gateway.transport.retry.jitter ≤ 0 := by decide
  have hm : ofLocalPlane.mode = .cloud := rfl
  obtain ⟨d, hd, -, hbound⟩ := cost_bounded ofLocalPlane
  obtain rfl := hd hj
  have h := ((hbound "a" ⟨"k", "s"⟩ dragged).2.2 hm).1
  have hlong : ofChance.gateway.transport.retry.maxDelay.toMillis ≤ 2 ^ 53 := by decide
  obtain ⟨d', -, htwice, hchance⟩ := cost_bounded ofChance
  have hd' : d' ≤ 200000000 := (htwice hlong).trans (by decide)
  have h' := (hchance "a" ⟨"k", "s"⟩ unlucky).1
  refine ⟨⟨hj, hm, Session.Within.mono h (by decide +kernel) (by decide +kernel), by decide +kernel,
    by decide +kernel⟩, hlong, Session.Within.mono h' (by decide) ?_, by decide +kernel⟩
  exact (Nat.add_le_add_left hd' _).trans (by decide)

/-- Where chance has a say, a question may take longer than the steady delays have it: two attempts
of five seconds each, but a fifth of a second in between instead of a tenth. -/
theorem health_strays :
    let p := ofChance.gateway.transport.retry
    let n := max 1 p.maxAttempts
    let r := ofChance.gateway.transport.readTimeout.toNanos
    let d := ∑ i ∈ Finset.Ico 1 n, min (i * p.baseDelay.toNanos) p.maxDelay.toNanos
    n * r + d = 10100000000
    ∧ (ofChance.health unlucky).2.session.now = unlucky.session.now + 10200000000
    ∧ ¬ Within n (n * r + d) unlucky (ofChance.health unlucky).2 := by
  intro p n r d
  have hbound : n * r + d = 10100000000 := by decide +kernel
  have hnow : (ofChance.health unlucky).2.session.now = unlucky.session.now + 10200000000 := by
    decide +kernel
  refine ⟨hbound, hnow, fun h => ?_⟩
  have hle := h.now_le
  rw [hbound, hnow] at hle
  exact absurd (Nat.le_of_add_le_add_left hle) (by decide)

end SecretBroker.Broker
