import SecretBroker.Proofs.Broker.Sessionwise
import SecretBroker.Proofs.Gateway.Elapsed
import SecretBroker.Proofs.Gateway.Settlement

/-!
# What a health check tells

A health check is one call, and what it reports is told by the attempt that decides the call
(`health_tells`): the gateway is healthy if that attempt ended in a status for success, and else the
report says what is wrong, with the same words for a status whether it came as a response or as an
error. It took as long as the call did; a call that its breaker turns away takes no time.
-/

namespace SecretBroker.Broker

/-- An answer with this status decided the call. One of 500 or more is an error. -/
def Answered (status : Nat) (x : Except GatewayError Response) : Prop :=
  (∃ body, x = .ok ⟨status, body⟩) ∨ ∃ operation, x = .error (.unavailable operation status)

variable {b : Broker} {s : State} {x : Except GatewayError Response} {h : Health}

theorem healthCall_error {e : GatewayError} (h : b.healthCall = .error e) : e.IsConfiguration := by
  rcases Gateway.reading_error h with hu | he
  · unfold Access.healthUrl at hu
    split at hu
    · exact Address.below_error hu
    · exact Address.ofBase_error hu
  · exact he

theorem of_healthCall {c : Call} (h : b.healthCall = .ok c) :
    c.operation = Operation.healthCheck.name ∧ c.timeoutText = "Timeout checking gateway health" :=
  ⟨(Gateway.of_reading h).1, Gateway.timeoutText_of_reading h⟩

/-- Only a response with a status for success is no ailment. -/
theorem ailment?_eq_none_iff :
    ailment? x = none ↔ ∃ r, x = .ok r ∧ 200 ≤ r.status ∧ r.status ≤ 299 := by
  rcases x with e | r
  · cases e <;> simp [ailment?]
  · by_cases hr : r.isSuccess = true
    · rw [ailment?, if_pos hr]
      exact iff_of_true rfl ⟨r, rfl, r.isSuccess_iff.1 hr⟩
    · rw [ailment?, if_neg hr]
      refine iff_of_false (Option.some_ne_none _) ?_
      rintro ⟨_, ⟨⟩, hs⟩
      exact hr (r.isSuccess_iff.2 hs)

theorem ailment?_of_answered {status : Nat} (hx : Answered status x)
    (hs : ¬ (200 ≤ status ∧ status ≤ 299)) : ailment? x = some (statusText status) := by
  rcases hx with ⟨body, rfl⟩ | ⟨operation, rfl⟩
  · rw [ailment?, if_neg (mt (Response.isSuccess_iff _).1 hs)]
  · rfl

theorem statusText_of_ne {status : Nat} (h401 : status ≠ 401) (h403 : status ≠ 403)
    (h404 : status ≠ 404) : statusText status = "HTTP " ++ toString status := by
  unfold statusText
  split
  · exact absurd rfl h401
  · exact absurd rfl h403
  · exact absurd rfl h404
  · rfl

theorem health_eq (b : Broker) (s : State) : b.health s
    = ((b.gateway.put b.healthCall s.session).1.map
        (diagnosis · ((b.gateway.put b.healthCall s.session).2.now - s.session.now)),
      { s with session := (b.gateway.put b.healthCall s.session).2 }) :=
  b.health_apply s

/-- The report of a health check is that of the attempt that decides its call, and it took as long
as the attempts up to that one and the pauses between them. A status that is none for success has a
text of its own, and so has everything else that may be wrong. A call that is turned away or does
not come about is reported in no time. -/
theorem health_tells (b : Broker) (s : State) :
    let call := b.healthCall
    let t := b.gateway.transport
    let after := (b.health s).2
    (s.session.deadline = none → (b.health s).1 ≠ none)
    ∧ ∀ h, (b.health s).1 = some h →
      (h.healthy = true ↔ ∃ c n r, b.gateway.Decided call s.session c n
        ∧ t.ending c s.session (n - 1) = .ok r ∧ 200 ≤ r.status ∧ r.status ≤ 299)
      ∧ (h.error = none ↔ h.healthy = true)
      ∧ (∀ c n, b.gateway.Decided call s.session c n →
        let x := t.ending c s.session (n - 1)
        after.session.now = s.session.now + t.lasts c s.session n
        ∧ h.responseMillis = t.lasts c s.session n / 1000000
        ∧ (∀ status, Answered status x → ¬ (200 ≤ status ∧ status ≤ 299) →
          (status = 401 → h.error = some "Authentication failed: check the gateway token")
          ∧ (status = 403 →
            h.error = some "Permission denied: token lacks access to the gateway admin API")
          ∧ (status = 404 → h.error = some "Endpoint not found: check the gateway URL configuration")
          ∧ (status ≠ 401 → status ≠ 403 → status ≠ 404 →
            h.error = some ("HTTP " ++ toString status)))
        ∧ (∀ operation text, x = .error (.timeout operation text) →
          operation = "health_check" ∧ text = "Timeout checking gateway health"
          ∧ h.error = some text)
        ∧ ∀ operation fault, x = .error (.transport operation fault) → operation = "health_check"
          ∧ h.error = some ("Transport error during health_check: " ++ fault.text))
      ∧ (∀ c, call = .ok c → (s.session.breakers.enter c.operation s.session.now).1 = none →
        after = s ∧ h = {
          healthy := false
          responseMillis := 0
          error := some "Circuit breaker open for operation: health_check" })
      ∧ ∀ e, call = .error e → after = s ∧ ∃ problem, e = .configuration problem ∧ h = {
          healthy := false
          responseMillis := 0
          error := some ("Configuration error: " ++ problem) } := by
  intro call t after
  rcases hput : b.gateway.put call s.session with ⟨r, s'⟩
  have hhealth : b.health s
      = (r.map (diagnosis · (s'.now - s.session.now)), { s with session := s' }) := by
    rw [b.health_eq, show b.healthCall = call from rfl, hput]
  have hafter : after = { s with session := s' } := congrArg Prod.snd hhealth
  rw [hhealth]
  refine ⟨fun hs => ?_, fun h hh => ?_⟩
  · have hr := (b.gateway.returns_put call s.session hs).1
    rw [hput] at hr
    exact mt Option.map_eq_none_iff.1 hr
  obtain ⟨x, rfl, rfl⟩ := Option.map_eq_some_iff.1 hh
  have hx : b.gateway.Ends call s.session x := Gateway.ends_of_put (by rw [hput])
  have hdecided {c : Call} {n : Nat} (hd : b.gateway.Decided call s.session c n) :
      t.ending c s.session (n - 1) = x := hd.ends.unique hx
  refine ⟨?_, ?_, fun c n hd => ?_, fun c hc he => ?_, fun e he => ?_⟩
  · rw [diagnosis, Option.isNone_iff_eq_none, ailment?_eq_none_iff]
    constructor
    · rintro ⟨r, rfl, hr⟩
      obtain ⟨c, n, hd, he⟩ := hx.decided_of_ok
      exact ⟨c, n, r, hd, he, hr⟩
    · rintro ⟨c, n, r, hd, he, hr⟩
      exact ⟨r, (hdecided hd).symm.trans he, hr⟩
  · exact Option.isNone_iff_eq_none.symm
  · have hnow : s'.now = s.session.now + t.lasts c s.session n := hd.now_eq hput
    rw [hdecided hd, hafter]
    have hblames {e : GatewayError} (he : x = .error e) :
        e.Blames "health_check" "Timeout checking gateway health" := by
      have hb := Transport.blames_ending ((hdecided hd).trans he)
      rwa [(of_healthCall hd.made).1, (of_healthCall hd.made).2] at hb
    refine ⟨hnow, ?_, fun status ha hs => ?_, ?_, ?_⟩
    · rw [diagnosis, hnow, Nat.add_sub_cancel_left]
      rfl
    · rw [show (diagnosis x (s'.now - s.session.now)).error = some (statusText status) from
        ailment?_of_answered ha hs]
      refine ⟨?_, ?_, ?_, fun h401 h403 h404 => by rw [statusText_of_ne h401 h403 h404]⟩
      · rintro rfl
        rfl
      · rintro rfl
        rfl
      · rintro rfl
        rfl
    · rintro operation text rfl
      cases hblames rfl
      exact ⟨rfl, rfl, rfl⟩
    · rintro operation fault rfl
      cases hblames rfl
      exact ⟨rfl, rfl⟩
  · -- The session is left as it was.
    have hturned := b.gateway.transport.execute_of_turnedAway he
    rw [(of_healthCall hc).1] at hturned
    rw [show b.gateway.put call s.session = b.gateway.put (.ok c) s.session by rw [hc]] at hput
    obtain ⟨hr, rfl⟩ := Prod.mk.inj (hturned.symm.trans hput)
    obtain rfl := Option.some.inj hr
    rw [hafter, Nat.sub_self]
    exact ⟨rfl, rfl⟩
  · obtain ⟨problem, rfl⟩ := healthCall_error he
    rw [he] at hput
    cases hput
    rw [hafter, Nat.sub_self]
    exact ⟨rfl, problem, rfl, rfl⟩

/-- No answer for five seconds and, after the pause, one that refuses the token. -/
example : ((({
      gateway := {
        access := { base := "http://[::1]:8001", token := none, plane := .admin }
        transport := {} } } : Broker).health {
      session := { script := [fun _ => .silence, fun _ => .answer 401 "" (.ofMillis 20)] } }).1)
    = some {
      healthy := false
      responseMillis := 5120
      error := some "Authentication failed: check the gateway token" } := by
  decide +kernel

end SecretBroker.Broker
