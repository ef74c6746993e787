import SecretBroker.Proofs.Broker.Stages
import SecretBroker.Proofs.Gateway.Course

/-!
# Questions in the session alone

What comes of a question, and what it does to the session, has nothing to do with the cache once the
cache has been looked into: the question is put to the gateway in the session (`Gateway.enquire`),
and the cache learns the result (`fetch_apply`, `create_apply`). So the session of a broker takes the
course that the gateway's does (`course_get`, `course_create`, `course_health`).
-/

namespace SecretBroker.Broker

/-- What comes of a question about a consumer; nothing if it was abandoned. -/
abbrev Result := Option (Except GatewayError (Option ConsumerSecret))

/-- The secret that a question came to, if it came to one. -/
def secret? : Result → Option ConsumerSecret
  | some (.ok found) => found
  | _ => none

/-- The cache once a question came to a result: with the secret, if there is one. -/
def learnt (id : String) (now : Instant) (c : Cache) (r : Result) : Cache :=
  match secret? r with
  | some secret => c.set id secret none now
  | none => c

theorem learnt_of_none {r : Result} (h : secret? r = none) (id : String) (now : Instant)
    (c : Cache) : learnt id now c r = c := by
  simp only [learnt, h]

/-- The call that asks for no more than the gateway's health. -/
def healthCall (b : Broker) : Except GatewayError Call :=
  b.gateway.reading .healthCheck (b.gateway.access.healthUrl b.gateway.access.base)
    "Timeout checking gateway health"

variable {b : Broker} {id : String} {s : State}

theorem credential_apply (call : Except GatewayError Call)
    (read : Response → Except GatewayError (Option ConsumerSecret)) (s : State) :
    (do
      let response ← b.ask call
      let secret ← read response
      keep id secret
      return secret : Attempt (Option ConsumerSecret)) s
    = match (do let r ← b.gateway.ask (← call); read r : Inquiry _) s.session with
      | (r, session) => (r, { cache := learnt id session.now s.cache r, session }) := by
  rcases call with e | c
  · rfl
  change (asking (b.gateway.ask c) >>= fun response => _ : Attempt (Option ConsumerSecret)) s
    = match (b.gateway.ask c >>= fun r => liftM (read r) : Inquiry _) s.session with
      | (r, session) => (r, { cache := learnt id session.now s.cache r, session })
  rw [inquiry_bind_apply, inquiry_bind_apply, asking_apply]
  rcases b.gateway.ask c s.session with ⟨_ | e | response, s₁⟩
  · rfl
  · rfl
  dsimp only
  rcases read response with e | secret
  · rfl
  · rcases secret with _ | secret <;> rfl

theorem resolved_apply (call : String → Except GatewayError Call)
    (read : String → Response → Except GatewayError (Option ConsumerSecret)) (s : State) :
    (do
      match ← asking (b.gateway.resolve id) with
      | none => return none
      | some consumer =>
        let response ← b.ask (call consumer)
        let secret ← read consumer response
        keep id secret
        return secret : Attempt (Option ConsumerSecret)) s
    = match b.gateway.enquire id call read s.session with
      | (r, session) => (r, { cache := learnt id session.now s.cache r, session }) := by
  rw [inquiry_bind_apply, asking_apply, Gateway.enquire, inquiry_bind_apply]
  rcases b.gateway.resolve id s.session with ⟨_ | e | _ | consumer, s₁⟩
  · rfl
  · rfl
  · rfl
  · exact credential_apply (call consumer) (read consumer) { s with session := s₁ }

theorem get_apply (b : Broker) (id : String) (s : State) :
    b.get id s = match s.cache.get id s.session.now with
      | (some secret, cache) => (some (.ok (some secret)), { s with cache })
      | (none, cache) => b.fetch id { s with cache } := by
  have h : b.get id s = (match (s.cache.get id s.session.now).1 with
      | some secret => return some secret
      | none => b.fetch id : Attempt (Option ConsumerSecret))
        { s with cache := (s.cache.get id s.session.now).2 } := rfl
  rw [h]
  rcases s.cache.get id s.session.now with ⟨_ | secret, cache⟩ <;> rfl

theorem get_of_hit {secret : ConsumerSecret}
    (h : (s.cache.get id s.session.now).1 = some secret) : b.get id s
      = (some (.ok (some secret)), { s with cache := (s.cache.get id s.session.now).2 }) := by
  rw [get_apply]
  rcases hc : s.cache.get id s.session.now with ⟨found, cache⟩
  rw [hc] at h
  cases h
  rfl

theorem get_of_miss (h : (s.cache.get id s.session.now).1 = none) :
    b.get id s = b.fetch id { s with cache := (s.cache.get id s.session.now).2 } := by
  rw [get_apply]
  rcases hc : s.cache.get id s.session.now with ⟨found, cache⟩
  rw [hc] at h
  cases h
  rfl

variable (b)

theorem fetch_apply (id : String) (s : State) :
    b.fetch id s
    = match b.gateway.enquire id (b.getCall id) (fun _ => secretIn) s.session with
      | (r, session) => (r, { cache := learnt id session.now s.cache r, session }) :=
  resolved_apply (b.getCall id) (fun _ => secretIn) s

theorem create_apply (id : String) (fresh : NewCredential) (s : State) :
    b.create id fresh s
    = match b.gateway.enquire id (b.createCall id fresh) (fun consumer r => createdIn r consumer)
        s.session with
      | (r, session) => (r, { cache := learnt id session.now s.cache r, session }) :=
  resolved_apply (b.createCall id fresh) (fun consumer r => createdIn r consumer) s

/-- What a health check makes of the result of its call and the time that passed. -/
def diagnosis (r : Except GatewayError Response) (span : Nat) : Health :=
  { healthy := (ailment? r).isNone, responseMillis := span / nanosPerMilli, error := ailment? r }

theorem health_apply (s : State) :
    b.health s = match (do b.gateway.ask (← b.healthCall) : Inquiry Response) s.session with
      | (r, session) => (r.map (diagnosis · (session.now - s.session.now)), { s with session }) := by
  have h : b.ask b.healthCall s
      = match (do b.gateway.ask (← b.healthCall) : Inquiry Response) s.session with
        | (r, session) => (r, { s with session }) := by
    rw [ask]
    rcases b.healthCall with e | c <;> rfl
  have hh : b.health s = (do
      let r ← (b.ask b.healthCall).run
      return diagnosis r ((← now) - s.session.now) : Task Health) s := rfl
  rw [hh, bind_apply, ExceptT.run, h]
  rcases (do b.gateway.ask (← b.healthCall) : Inquiry Response) s.session with ⟨_ | r, s₁⟩ <;> rfl

theorem health_snd (s : State) : (b.health s).2 = (b.ask b.healthCall s).2 := by
  rw [health_apply, ask]
  rcases b.healthCall with e | c <;> rfl

theorem health_cache (s : State) : (b.health s).2.cache = s.cache := by
  rw [health_apply]
  rfl

section
variable {R : List Operation → Session → Session → Prop} (hR : Course b.gateway.transport R)
include hR

theorem course_fetch (id : String) (s : State) :
    R (Gateway.stages b.gateway.access.plane ++ [.secretGet]) s.session
      (b.fetch id s).2.session := by
  rw [fetch_apply]
  exact hR.enquire id (fun _ _ hc => Gateway.belongs_of_reading hc rfl) _ s.session

theorem course_get (id : String) (s : State) :
    R (Gateway.stages b.gateway.access.plane ++ [.secretGet]) s.session
      (b.get id s).2.session := by
  rw [get_apply]
  rcases s.cache.get id s.session.now with ⟨_ | secret, cache⟩
  · exact b.course_fetch hR id { s with cache }
  · exact hR.pure _ secret s.session

theorem course_create (id : String) (fresh : NewCredential) (s : State) :
    R (Gateway.stages b.gateway.access.plane ++ [.secretCreate]) s.session
      (b.create id fresh s).2.session := by
  rw [create_apply]
  exact hR.enquire id (fun _ _ hc => Gateway.belongs_of_writing hc rfl) _ s.session

theorem course_health (s : State) : R [.healthCheck] s.session (b.health s).2.session := by
  rw [health_apply]
  exact hR.ask (fun _ hc => Gateway.belongs_of_reading hc rfl) s.session

end

end SecretBroker.Broker
