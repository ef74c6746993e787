import SecretBroker.Proofs.Broker.Creation

/-!
# The stages of a question

Behind a control plane, one question about a consumer sends at most five groups of requests, in
this order: the realm is asked for, the realm is made, the consumer is looked up, the consumer is
searched for, and the credentials are asked for or made. Each group is reached only by what came
before it in the same question (`cloud_staged`).
-/

namespace SecretBroker.Broker

variable {b : Broker} {p : ControlPlane} {id : String} {s s' : State}

/-- The call that asks for the credentials of a consumer. -/
def getCall (b : Broker) (id consumer : String) : Except GatewayError Call :=
  b.gateway.reading .secretGet (b.credentialsUrl consumer)
    ("Timeout fetching secret for consumer: " ++ id)

/-- Between `s` and `s'` there is a trail to a consumer's id, and behind it attempts, at most `cap`,
at the call about the id that the trail gives, to the URL of its credentials. -/
def Staged (b : Broker) (p : ControlPlane) (id : String) (call : String → Except GatewayError Call)
    (cap : Nat) (s s' : Session) : Prop :=
  ∃ (t : b.gateway.Trail p id) (last : List Trip), s.Made (t.trips ++ last) s'
    ∧ (∀ stage ∈ [t.check, t.create, t.lookUp, t.search],
      stage.length ≤ max b.gateway.transport.retry.maxAttempts 1)
    ∧ last.length ≤ cap
    ∧ (last ≠ [] → ∃ consumer c, t.Gives consumer ∧ call consumer = .ok c
      ∧ b.credentialsUrl consumer = .ok c.url
      ∧ ∀ x ∈ last, x.request = c.request b.gateway.transport.agent)

theorem Staged.of_idle {call : String → Except GatewayError Call} {cap : Nat} (s : Session) :
    Staged b p id call cap s s := by
  refine ⟨⟨[], [], [], [], .nil _, .nil _, .nil _, .nil _, ?_, ?_, ?_⟩, [], .refl s, ?_, ?_, ?_⟩
  all_goals simp

theorem get_cases (b : Broker) (id : String) (s : State) : (b.get id s).2.session = s.session
    ∨ ∃ cache, b.get id s = b.fetch id { s with cache } := by
  have hc : (liftM (cached id) : Attempt (Option ConsumerSecret)) s
      = (some (.ok (s.cache.get id s.session.now).1),
        { s with cache := (s.cache.get id s.session.now).2 }) := rfl
  rcases inquiry_bind_cases (rfl : b.get id s = _) with ⟨r₀, hx, hr⟩ | ⟨found, s₁, hx, hf⟩
  · rw [hc] at hx
    obtain ⟨-, hs⟩ := Prod.mk.inj hx
    exact .inl (congrArg State.session hs).symm
  rw [hc] at hx
  obtain ⟨-, rfl⟩ := Prod.mk.inj hx
  rcases found with _ | secret
  · exact .inr ⟨_, hf.symm⟩
  · exact .inl (congrArg (fun x => x.2.session) hf).symm

/-- What follows a resolution comes in stages. -/
theorem staged_of_resolved (hp : b.gateway.access.plane = .cloud p)
    {call : String → Except GatewayError Call} {cap : Nat} {s mid s' : Session}
    {found : Option (Except GatewayError (Option String))} {last : List Trip}
    (hres : b.gateway.resolve id s = (found, mid)) (hm : mid.Made last s')
    (hcall : ∀ consumer c, call consumer = .ok c → b.credentialsUrl consumer = .ok c.url
      ∧ b.gateway.transport.allowance c ≤ cap)
    (hreached : last ≠ [] → ∃ consumer c, found = some (.ok (some consumer))
      ∧ call consumer = .ok c ∧ b.gateway.Attempts (.ok c) last) :
    Staged b p id call cap s s' := by
  obtain ⟨t, ht, hgives⟩ := Gateway.resolve_trail hp hres
  refine ⟨t, last, ht.trans hm, ?_, ?_, ?_⟩
  · intro stage hstage
    simp only [List.mem_cons, List.not_mem_nil, or_false] at hstage
    rcases hstage with rfl | rfl | rfl | rfl
    · exact t.check_attempts.length_le_max
    · exact t.create_attempts.length_le_max
    · exact t.lookUp_attempts.length_le_max
    · exact t.search_attempts.length_le_max
  · by_cases hne : last = []
    · rw [hne]
      exact Nat.zero_le _
    · obtain ⟨consumer, c, -, hc, hat⟩ := hreached hne
      exact Nat.le_trans hat.length_le (hcall consumer c hc).2
  · intro hne
    obtain ⟨consumer, c, hf, hc, hat⟩ := hreached hne
    refine ⟨consumer, c, hgives consumer hf, hc, (hcall consumer c hc).1, fun x hx => ?_⟩
    obtain ⟨c', hc', hx⟩ := hat.request hx
    cases hc'
    exact hx

/-- Behind a control plane, one question about a consumer sends its requests in stages. -/
theorem cloud_staged (hp : b.gateway.access.plane = .cloud p) (id : String) (s : State) :
    Staged b p id (b.getCall id) (max b.gateway.transport.retry.maxAttempts 1)
      s.session (b.get id s).2.session
    ∧ ∀ fresh, Staged b p id (b.createCall id fresh) 1
      s.session (b.create id fresh s).2.session := by
  constructor
  · rcases get_cases b id s with hs | ⟨cache, hf⟩
    · rw [hs]
      exact .of_idle _
    rw [hf]
    rcases hx : b.fetch id { s with cache } with ⟨r, s'⟩
    obtain ⟨found, mid, last, hres, hm, hreached, -⟩ :=
      resolved_cases (b.getCall id) (fun _ r => secretIn r) hx
    refine staged_of_resolved hp hres hm (fun consumer c hc => ?_) fun hne => ?_
    · exact ⟨(Gateway.of_reading hc).2.2, Transport.allowance_le _ c⟩
    · obtain ⟨consumer, c, hf, hc, hat, -⟩ := hreached hne
      exact ⟨consumer, c, hf, hc, hat⟩
  · intro fresh
    rcases hx : b.create id fresh s with ⟨r, s'⟩
    obtain ⟨found, mid, last, hres, hm, hreached, -⟩ :=
      resolved_cases (b.createCall id fresh) (fun consumer r => createdIn r consumer) hx
    refine staged_of_resolved hp hres hm (fun consumer c hc => ?_) fun hne => ?_
    · obtain ⟨-, -, hu, hr⟩ := Gateway.of_writing hc
      exact ⟨hu, Nat.le_of_eq (by rw [Transport.allowance, hr, if_neg Bool.false_ne_true])⟩
    · obtain ⟨consumer, c, hf, hc, hat, -⟩ := hreached hne
      exact ⟨consumer, c, hf, hc, hat⟩

/-- A control plane on the machine itself. -/
def localPlane : ControlPlane where
  id := "0b5bd3c1-7d5e-4b55-8a0e-0e4b0f4d5e11"
  origin := "http://[::1]"

/-- A broker behind it. -/
def ofLocalPlane : Broker where
  gateway := {
    access := {
      base := "http://[::1]/control-planes/0b5bd3c1-7d5e-4b55-8a0e-0e4b0f4d5e11"
      token := none
      plane := .cloud localPlane }
    transport := {} }

/-- The plane has no realm yet, and when it has one there is no such consumer. -/
def unknown : State where
  session := { script := [
    fun _ => .answer 404 "" .zero, fun _ => .answer 201 "" .zero,
    fun _ => .answer 404 "" .zero, fun _ => .answer 503 "" .zero] }

theorem cloud_staged_unknown :
    ofLocalPlane.gateway.access.plane = .cloud localPlane
    ∧ Staged ofLocalPlane localPlane "a" (ofLocalPlane.getCall "a") 2
      unknown.session (ofLocalPlane.get "a" unknown).2.session
    ∧ (ofLocalPlane.get "a" unknown).2.session.sent.length = 4 := by
  have hp : ofLocalPlane.gateway.access.plane = .cloud localPlane := rfl
  exact ⟨hp, (cloud_staged hp "a" unknown).1, by decide +kernel⟩

end SecretBroker.Broker
