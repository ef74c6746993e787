import SecretBroker.Broker
import SecretBroker.Proofs.Gateway.Resolving

/-!
# What a question about a consumer comes to

The broker asks about a consumer in two parts: the consumer's id is resolved, and then one call is
made about the credentials of that id. `resolved_cases` says it of both, whatever the call is and
however its response is read.
-/

namespace SecretBroker.Broker

variable {b : Broker} {s s' : State}

theorem asking_apply {α : Type} (x : Inquiry α) (s : State) :
    asking x s = ((x s.session).1, { s with session := (x s.session).2 }) := rfl

/-- A call in the broker's session makes its trips there and leaves the cache alone. -/
theorem ask_cases {call : Except GatewayError Call} {r : Option (Except GatewayError Response)}
    (h : b.ask call s = (r, s')) :
    ∃ trips, s'.cache = s.cache ∧ s.session.Made trips s'.session
      ∧ b.gateway.Attempts call trips
      ∧ (trips ≠ [] → ∃ c, call = .ok c
        ∧ (s.session.breakers.enter c.operation s.session.now).1 ≠ none)
      ∧ ∀ response, r = some (.ok response) → b.gateway.Brought call trips response := by
  rcases inquiry_lift_cases h with ⟨rfl, hr⟩ | ⟨c, rfl, hc⟩
  · exact ⟨[], rfl, .refl _, .nil _, fun hne => absurd rfl hne, fun response he => absurd he (hr _)⟩
  · rw [asking_apply] at hc
    cases hc
    have hask : b.gateway.ask c s.session
        = ((b.gateway.ask c s.session).1, (b.gateway.ask c s.session).2) := rfl
    obtain ⟨trips, hm, hat, hb, hr⟩ := Gateway.ask_cases hask
    exact ⟨trips, rfl, hm, hat, fun hne => ⟨c, rfl, hb hne⟩, hr⟩

theorem keep_apply (id : String) (secret : Option ConsumerSecret) (s : State) :
    (do keep id secret; return secret : Attempt (Option ConsumerSecret)) s
      = (some (.ok secret), match secret with
        | some v => { s with cache := s.cache.set id v none s.session.now }
        | none => s) := by
  rcases secret with _ | v <;> rfl

/-- A question for a credential makes the trips of its call, and keeps the secret it returns. -/
theorem credential_cases {id : String} {call : Except GatewayError Call}
    {read : Response → Except GatewayError (Option ConsumerSecret)}
    {r : Option (Except GatewayError (Option ConsumerSecret))}
    (h : (do
      let response ← b.ask call
      let secret ← read response
      keep id secret
      return secret : Attempt (Option ConsumerSecret)) s = (r, s')) :
    ∃ last, s.session.Made last s'.session ∧ b.gateway.Attempts call last
      ∧ (last ≠ [] → ∃ c, call = .ok c
        ∧ (s.session.breakers.enter c.operation s.session.now).1 ≠ none)
      ∧ ∀ secret, r = some (.ok (some secret)) → ∃ response,
        b.gateway.Brought call last response ∧ read response = .ok (some secret)
        ∧ s'.cache = s.cache.set id secret none s'.session.now := by
  rcases inquiry_bind_cases h with ⟨r₀, hask, hr⟩ | ⟨response, s₁, hask, hread⟩
  · obtain ⟨last, -, hm, hat, hb, -⟩ := ask_cases hask
    exact ⟨last, hm, hat, hb, fun secret he => absurd he (hr _)⟩
  obtain ⟨last, hcache, hm, hat, hb, hbrought⟩ := ask_cases hask
  rcases inquiry_lift_cases hread with ⟨rfl, hr⟩ | ⟨found, hfound, hkeep⟩
  · exact ⟨last, hm, hat, hb, fun secret he => absurd he (hr _)⟩
  rw [keep_apply] at hkeep
  obtain ⟨rfl, rfl⟩ := Prod.mk.inj hkeep
  rcases found with _ | secret
  · exact ⟨last, hm, hat, hb, fun secret he => by cases he⟩
  · refine ⟨last, hm, hat, hb, fun secret' he => ?_⟩
    obtain rfl := Option.some.inj (Except.ok.inj (Option.some.inj he))
    refine ⟨response, hbrought response rfl, hfound, ?_⟩
    rw [← hcache]

/-- A question about a consumer that is resolved first: the trips of the resolution, and behind it
those of a call about the id that it found. -/
theorem resolved_cases {id : String} (call : String → Except GatewayError Call)
    (read : String → Response → Except GatewayError (Option ConsumerSecret))
    {r : Option (Except GatewayError (Option ConsumerSecret))}
    (h : (do
      match ← asking (b.gateway.resolve id) with
      | none => return none
      | some consumer =>
        let response ← b.ask (call consumer)
        let secret ← read consumer response
        keep id secret
        return secret : Attempt (Option ConsumerSecret)) s = (r, s')) :
    ∃ found mid last, b.gateway.resolve id s.session = (found, mid) ∧ mid.Made last s'.session
      ∧ (last ≠ [] → ∃ consumer c, found = some (.ok (some consumer)) ∧ call consumer = .ok c
        ∧ b.gateway.Attempts (.ok c) last
        ∧ (mid.breakers.enter c.operation mid.now).1 ≠ none)
      ∧ ∀ secret, r = some (.ok (some secret)) → ∃ consumer response,
        b.gateway.Brought (call consumer) last response
        ∧ read consumer response = .ok (some secret)
        ∧ s'.cache = s.cache.set id secret none s'.session.now := by
  rcases inquiry_bind_cases h with ⟨r₀, ha, hr⟩ | ⟨found, s₁, ha, hf⟩
  · rw [asking_apply] at ha
    cases ha
    exact ⟨_, _, [], rfl, .refl _, fun hne => absurd rfl hne, fun secret he => absurd he (hr _)⟩
  rw [asking_apply] at ha
  obtain ⟨hfound, rfl⟩ := Prod.mk.inj ha
  have hres : b.gateway.resolve id s.session
      = (some (.ok found), (b.gateway.resolve id s.session).2) := Prod.ext hfound rfl
  rcases found with _ | consumer
  · cases hf
    exact ⟨_, _, [], hres, .refl _, fun hne => absurd rfl hne, fun secret he => by cases he⟩
  · obtain ⟨last, hm, hat, hb, hs⟩ := credential_cases hf
    refine ⟨_, _, last, hres, hm, fun hne => ?_, fun secret he => ⟨consumer, hs secret he⟩⟩
    obtain ⟨c, hc, he⟩ := hb hne
    exact ⟨consumer, c, rfl, hc, hc ▸ hat, he⟩

end SecretBroker.Broker
