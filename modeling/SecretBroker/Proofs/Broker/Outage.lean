import SecretBroker.Proofs.Broker.Recall
import SecretBroker.Proofs.Gateway.Addressing
import SecretBroker.Proofs.Gateway.Settlement

/-!
# Through an outage

At the gateway's own interface a question that the cache cannot answer makes one call, and what the
one who asks sees of it is what the call's breaker was told (`fetch_settles`). So the breaker keeps
count of the questions that failed in a row (`counting_run`): after as many as its threshold no
further one is put to the gateway until the reset timeout has passed, while the cache goes on to
answer (`outage_shows`).
-/

namespace SecretBroker

theorem Access.headers_of_usable {a a' : Access} (h : a.usable = .ok a') :
    ∃ headers, a'.headers = .ok headers := by
  obtain ⟨headers, hh, h⟩ := ok_of_bind h
  cases h
  exact ⟨headers, hh⟩

theorem Access.headers_of_ofSettings {g : GatewaySettings} {a : Access}
    (h : Access.ofSettings g = .ok a) : ∃ headers, a.headers = .ok headers := by
  unfold ofSettings at h
  split at h
  · obtain ⟨u, -, h⟩ := ok_of_bind h
    exact headers_of_usable h
  · cases h
  · obtain ⟨u, -, h⟩ := ok_of_bind h
    split at h
    · exact headers_of_usable h
    · cases h
  · cases h

theorem Gateway.reading_ok {g : Gateway} {url : Except GatewayError Url} {u : Url}
    {headers : List Header} (hu : url = .ok u) (hh : g.access.headers = .ok headers)
    (op : Operation) (message : String) : ∃ c, g.reading op url message = .ok c := by
  rw [reading, hu, hh]
  exact ⟨_, rfl⟩

theorem Response.of_decode_error {α : Type} {r : Response} {operation : String}
    {reader : Json.Reader α} {e : GatewayError} (h : r.decode operation reader = .error e) :
    ∃ problem, e = .invalidResponse operation problem := by
  rw [decode] at h
  rcases hj : Json.decode reader r.body with complaint | a
  · rw [hj] at h
    cases h
    exact ⟨_, rfl⟩
  · rw [hj] at h
    cases h

namespace Broker

/-- What comes of a question tells what became of its call at the breaker: that it failed, that it
succeeded, or that it was turned away. -/
inductive Tells : Result → Option Breaker.Verdict → Prop
  | timeout (operation message : String) :
    Tells (some (.error (.timeout operation message))) (some .failure)
  | transport (operation : String) (fault : Fault) :
    Tells (some (.error (.transport operation fault))) (some .failure)
  | unavailable (operation : String) (status : Nat) :
    Tells (some (.error (.unavailable operation status))) (some .failure)
  | abandoned : Tells none (some .failure)
  | answer (found : Option ConsumerSecret) : Tells (some (.ok found)) (some .success)
  | unexpectedStatus (operation : String) (status : Nat) (body : String) :
    Tells (some (.error (.unexpectedStatus operation status body))) (some .success)
  | invalidResponse (operation problem : String) :
    Tells (some (.error (.invalidResponse operation problem))) (some .success)
  | circuitOpen (operation : String) : Tells (some (.error (.circuitOpen operation))) none

theorem Tells.unique {r : Result} {v v' : Option Breaker.Verdict} (h : Tells r v)
    (h' : Tells r v') : v = v' := by
  cases h <;> cases h' <;> rfl

theorem tells_failure {e : GatewayError} (h : e.countsAsFailure = true) :
    Tells (some (.error e)) (some .failure) := by
  cases e
  case timeout => exact .timeout _ _
  case transport => exact .transport _ _
  case unavailable => exact .unavailable _ _
  all_goals cases h

theorem tells_secretIn (r : Response) : Tells (some (secretIn r)) (some .success) := by
  unfold secretIn
  split
  · exact .answer none
  · split
    · rcases hd : r.decode Operation.secretGet.name CredentialList.reader with e | l
      · obtain ⟨problem, rfl⟩ := Response.of_decode_error hd
        exact .invalidResponse _ _
      · exact .answer _
    · exact .unexpectedStatus _ _ _

section
variable {b : Broker} {g : Option GatewaySettings} {retry : RetryPolicy} {agent : Option String}
  {u : Url} {id : String} {s : State}

/-- The broker stands before the gateway's own interface, and can call about every consumer. -/
structure Direct (b : Broker) : Prop where
  plane : b.gateway.access.plane = .admin
  calls : ∀ id consumer, ∃ c, b.getCall id consumer = .ok c

theorem Direct.of_isHttp (hb : ofGateway g retry agent = .ok b)
    (ha : b.gateway.access.plane = .admin) (hu : Address.ofBase b.gateway.access.base = .ok u)
    (hh : u.isHttp = true) : Direct b := by
  refine ⟨ha, fun id consumer => ?_⟩
  obtain ⟨headers, hheaders⟩ : ∃ headers, b.gateway.access.headers = .ok headers := by
    unfold ofGateway at hb
    split at hb
    · cases hb
    · obtain ⟨access, hs, hb⟩ := ok_of_bind hb
      cases hb
      exact Access.headers_of_ofSettings hs
  obtain ⟨names, hp⟩ := Url.path_of_isHttp (mapError_eq_ok.1 hu) hh
  exact Gateway.reading_ok (b.gateway.access.credentialsUrl_eq hu hh hp consumer) hheaders _ _

/-- At the gateway's own interface a consumer goes by the id that is asked for, so the question is
one call. -/
theorem fetch_of_admin (ha : b.gateway.access.plane = .admin) (id : String) (s : State) :
    b.fetch id s = match b.ask (b.getCall id id) s with
      | (some (.ok response), mid) =>
        (some (secretIn response), match secretIn response with
          | .ok (some secret) => { mid with cache := mid.cache.set id secret none mid.session.now }
          | _ => mid)
      | (some (.error e), mid) => (some (.error e), mid)
      | (none, mid) => (none, mid) := by
  have hr : asking (b.gateway.resolve id) s = (some (.ok (some id)), s) := by
    rw [asking_apply, Gateway.resolve, ha]
    rfl
  unfold fetch getCall
  rw [inquiry_bind_apply, hr]
  dsimp only
  rw [inquiry_bind_apply]
  generalize b.ask _ s = x
  rcases x with ⟨_ | e | response, mid⟩
  · rfl
  · rfl
  · dsimp only
    rw [inquiry_bind_apply]
    rcases secretIn response with e | _ | secret
    · rfl
    · rfl
    · rfl

theorem ask_of_ok (b : Broker) (c : Call) (s : State) :
    b.ask (.ok c) s = ((b.gateway.transport.execute c s.session).1,
      { s with session := (b.gateway.transport.execute c s.session).2 }) := rfl

variable (hd : Direct b)

include hd in
/-- What the question comes to is what the call settles. -/
theorem fetch_settles (id : String) (s : State) :
    ∃ v, s.session.Settles Operation.secretGet.name (b.fetch id s).2.session v
      ∧ Tells (b.fetch id s).1 v := by
  obtain ⟨c, hc⟩ := hd.calls id id
  have hop : c.operation = Operation.secretGet.name := (Gateway.of_reading hc).1
  have hcarried := (b.gateway.transport.carried c s.session).settles
  rw [fetch_of_admin hd.plane, hc, ask_of_ok]
  rcases hx : b.gateway.transport.execute c s.session with ⟨r, mid⟩
  rw [hop, hx] at hcarried
  rcases hcarried with ⟨rfl, hs⟩ | ⟨⟨response, rfl⟩, hs⟩ | ⟨rfl | ⟨e, rfl, he⟩, hs⟩
  · exact ⟨_, hs, .circuitOpen _⟩
  · refine ⟨_, ?_, tells_secretIn response⟩
    dsimp only
    rcases secretIn response with _ | _ | _
    · exact hs
    · exact hs
    · exact hs
  · exact ⟨_, hs, .abandoned⟩
  · exact ⟨_, hs, tells_failure he⟩

include hd in
theorem fetch_of_turnedAway (id : String)
    (h : (s.session.breakers.enter Operation.secretGet.name s.session.now).1 = none) :
    b.fetch id s = (some (.error (.circuitOpen Operation.secretGet.name)), s) := by
  obtain ⟨c, hc⟩ := hd.calls id id
  have hop : c.operation = Operation.secretGet.name := (Gateway.of_reading hc).1
  rw [← hop] at h ⊢
  rw [fetch_of_admin hd.plane, hc, ask_of_ok, b.gateway.transport.execute_of_turnedAway h]

/-- The breaker of the questions for secrets. -/
def questions (s : State) : Breaker := s.session.breakers.get Operation.secretGet.name

/-- Whether a move makes that breaker as new. -/
def Renews : Move → Bool
  | .reset operation => operation == Operation.secretGet.name
  | .resetAll => true
  | _ => false

/-- The result of a question that the cache could not answer. -/
def uncached (b : Broker) (s : State) : Move → Option Result
  | .get id =>
    match (s.cache.get id s.session.now).1 with
    | some _ => none
    | none => some (b.get id s).1
  | _ => none

/-- Whether a question failed, which it also did if it was abandoned. -/
def failed : Result → Bool
  | some (.error e) => e.countsAsFailure
  | some (.ok _) => false
  | none => true

theorem Tells.failed_iff {r : Result} {v : Option Breaker.Verdict} (h : Tells r v) :
    failed r = true ↔ v = some .failure := by
  cases h <;> simp [failed, GatewayError.countsAsFailure]

section
variable (b) (settings : Settings)

/-- How many of the last questions that the cache could not answer failed, without another in
between. -/
def row : List Move → Nat
  | [] => 0
  | m :: past =>
    match b.uncached (b.run settings past) m with
    | some r => if failed r then row past + 1 else 0
    | none => row past

/-- When the last of them failed. -/
def lastFailing : List Move → Option Instant
  | [] => none
  | m :: past =>
    match b.uncached (b.run settings past) m with
    | some r => if failed r then some (b.run settings (m :: past)).session.now else lastFailing past
    | none => lastFailing past

end

theorem of_uncached {m : Move} {r : Result} (h : b.uncached s m = some r) :
    ∃ id, m = .get id ∧ (s.cache.get id s.session.now).1 = none ∧ r = (b.get id s).1 := by
  rcases m with id | _ | _ | _ | _ | _ | _ | _
  · rw [uncached] at h
    split at h
    · cases h
    · rename_i hc
      cases h
      exact ⟨id, rfl, hc, rfl⟩
  all_goals cases h

include hd in
/-- Only questions that the cache cannot answer have to do with their breaker, and those who reset
it. -/
theorem questions_step {m : Move} (hu : b.uncached s m = none) (hm : ¬ Renews m) :
    questions (b.step s m) = questions s := by
  rcases m with id | ⟨id, fresh⟩ | _ | _ | op | _ | _ | _
  · rcases hc : (s.cache.get id s.session.now).1 with _ | secret
    · simp only [uncached, hc, reduceCtorEq] at hu
    · simp only [step, get_of_hit hc]
      rfl
  · have hn : Operation.secretGet.name ∉ Operation.secretCreate.name
        :: Gateway.resolving b.gateway.access.plane := by
      rw [hd.plane]
      decide
    exact (b.onward_create id fresh s).get_eq hn
  · exact (b.onward_health s).get_eq (by decide)
  · rfl
  · have hne : Operation.secretGet.name ≠ op := fun he => hm (beq_iff_eq.2 he.symm)
    exact s.session.breakers.get_reset_of_ne hne
  · exact absurd rfl hm
  · rfl
  · rfl

variable {settings : Settings} {h : List Move}

include hd in
theorem counting_run (hl : settings.resilience.failureThreshold ≤ Breaker.countLimit) :
    ∀ {h : List Move}, (∀ m ∈ h, ¬ Renews m) →
    Breaker.Counting (breakerPolicy settings.resilience) (b.row settings h)
      (b.lastFailing settings h) (questions (b.run settings h))
  | [], _ => .new _ _
  | m :: past, hm => by
    have ih := counting_run hl fun m' h' => hm m' (List.mem_cons_of_mem _ h')
    have hp := b.policy_run settings past
    rw [row, lastFailing, run_cons]
    rcases hr : b.uncached (b.run settings past) m with _ | r
    · rw [questions_step hd hr (hm m List.mem_cons_self)]
      exact ih
    · obtain ⟨id, rfl, hmiss, rfl⟩ := of_uncached hr
      rw [step, get_of_miss hmiss]
      obtain ⟨v, hs, ht⟩ := fetch_settles hd id { (b.run settings past) with
        cache := ((b.run settings past).cache.get id (b.run settings past).session.now).2 }
      have hk := hs.counting (hp ▸ hl) (hp ▸ ih)
      simp only [ht.failed_iff]
      exact hp ▸ hk

theorem lastFailing_le {f : Instant} : ∀ {h : List Move}, b.lastFailing settings h = some f →
    f ≤ (b.run settings h).session.now
  | m :: past, hf => by
    have hle := b.now_le_step (b.run settings past) m
    rw [lastFailing] at hf
    split at hf
    · split at hf
      · cases hf
        exact Nat.le_refl _
      · exact Nat.le_trans (lastFailing_le hf) hle
    · exact Nat.le_trans (lastFailing_le hf) hle

/-- The breaker of questions is open, since a failure at `f`. -/
structure ShutSince (f : Instant) (s : State) : Prop where
  phase : (questions s).phase = .opened
  lastFailure : (questions s).lastFailure = some f
  le_now : f ≤ s.session.now

namespace ShutSince

variable {f : Instant}

theorem enter_eq_none (hf : ShutSince f s)
    (ht : s.session.now < f + s.session.breakers.policy.resetTimeout.toNanos) :
    (s.session.breakers.enter Operation.secretGet.name s.session.now).1 = none := by
  refine congrArg Prod.fst (Breaker.Registry.enter_eq_none
    (Breaker.enter_of_not_due hf.phase fun hd => ?_))
  have hle := (Breaker.resetDue_of_lastFailure hf.lastFailure).1 hd
  have hdue := Nat.add_le_of_le_sub hf.le_now hle
  rw [Nat.add_comm] at hdue
  exact Nat.not_lt.2 hdue ht

include hd in
theorem get_eq (hf : ShutSince f s)
    (ht : s.session.now < f + s.session.breakers.policy.resetTimeout.toNanos)
    (hmiss : (s.cache.get id s.session.now).1 = none) :
    b.get id s = (some (.error (.circuitOpen Operation.secretGet.name)),
      { s with cache := (s.cache.get id s.session.now).2 }) := by
  rw [get_of_miss hmiss]
  have h := hf.enter_eq_none ht
  exact fetch_of_turnedAway hd id h

include hd in
/-- The breaker stays open while the reset timeout has not passed. -/
theorem step (hf : ShutSince f s) {m : Move}
    (ht : (b.step s m).session.now < f + s.session.breakers.policy.resetTimeout.toNanos)
    (hm : ¬ Renews m) : ShutSince f (b.step s m) := by
  have hle := b.now_le_step s m
  have hq : questions (b.step s m) = questions s := by
    rcases hr : b.uncached s m with _ | r
    · exact questions_step hd hr hm
    · obtain ⟨id, rfl, hmiss, -⟩ := of_uncached hr
      rw [Broker.step, hf.get_eq hd (Nat.lt_of_le_of_lt hle ht) hmiss]
      rfl
  exact ⟨hq ▸ hf.phase, hq ▸ hf.lastFailure, Nat.le_trans hf.le_now hle⟩

end ShutSince

include hd in
theorem shutSince_run {f : Instant} (hf : ShutSince f (b.run settings h)) :
    ∀ {later : List Move}, (∀ m ∈ later, ¬ Renews m) →
    (b.run settings (later ++ h)).session.now < f + settings.resilience.resetTimeout.toNanos →
    ShutSince f (b.run settings (later ++ h))
  | [], _, _ => hf
  | m :: later, hm, ht => by
    have hle := b.now_le_step (b.run settings (later ++ h)) m
    have ih := shutSince_run hf (fun m' h' => hm m' (List.mem_cons_of_mem _ h'))
      (Nat.lt_of_le_of_lt hle ht)
    exact ih.step hd (b.resetTimeout_run settings (later ++ h) ▸ ht) (hm m List.mem_cons_self)

/-- At the gateway's own interface a question that the cache cannot answer settles its breaker as it
ends: as a failure, as a success, or not at all if it was turned away; any other question settles
nothing. So after as many failing ones in a row as the threshold, and until the reset timeout has
passed since the last of them, every further one is turned away and sends nothing, while the cache
answers the others. The threshold is one that the count, a number of 32 bits, can reach. -/
theorem outage_shows (hb : ofGateway g retry agent = .ok b)
    (ha : b.gateway.access.plane = .admin) (hu : Address.ofBase b.gateway.access.base = .ok u)
    (hh : u.isHttp = true) (hl : settings.resilience.failureThreshold ≤ Breaker.countLimit) :
    (∀ s id, (s.cache.get id s.session.now).1 = none → ∀ v,
      s.session.Settles Operation.secretGet.name (b.get id s).2.session v ↔ Tells (b.get id s).1 v)
    ∧ (∀ s id, (s.cache.get id s.session.now).1 ≠ none → (b.get id s).2.session = s.session)
    ∧ ∀ h, (∀ m ∈ h, ¬ Renews m) →
      max settings.resilience.failureThreshold 1 ≤ b.row settings h →
      ∃ f, b.lastFailing settings h = some f ∧ ∀ later, (∀ m ∈ later, ¬ Renews m) →
        ∀ s, b.run settings (later ++ h) = s →
        s.session.now < f + settings.resilience.resetTimeout.toNanos → ∀ id,
        ((s.cache.get id s.session.now).1 = none →
          b.get id s = (some (.error (.circuitOpen Operation.secretGet.name)),
            { s with cache := (s.cache.get id s.session.now).2 }))
        ∧ ∀ secret, Remembers s id secret → Answers b s id secret := by
  have hd := Direct.of_isHttp hb ha hu hh
  refine ⟨fun s id hmiss v => ?_, fun s id hhit => ?_, fun h hm hr => ?_⟩
  · rw [get_of_miss hmiss]
    obtain ⟨v', hs, ht⟩ := fetch_settles hd id
      { s with cache := (s.cache.get id s.session.now).2 }
    constructor
    · intro hv
      obtain rfl := hs.unique hv
      exact ht
    · intro hv
      obtain rfl := ht.unique hv
      exact hs
  · obtain ⟨secret, hc⟩ := Option.ne_none_iff_exists'.1 hhit
    rw [get_of_hit hc]
  · obtain ⟨f, hf, hp, hlast⟩ := (counting_run hd hl hm).opened_of_le hr
    refine ⟨f, hf, ?_⟩
    rintro later hm' s rfl ht id
    have hs := shutSince_run hd ⟨hp, hlast, lastFailing_le hf⟩ hm' ht
    rw [← b.resetTimeout_run settings (later ++ h)] at ht
    exact ⟨hs.get_eq hd ht, fun secret => Remembers.answers⟩

end

/-- Settings under which two failures open a breaker. -/
def impatient : Settings := { briefly with resilience.failureThreshold := 2 }

/-- The gateway made a credential for one consumer and answers no more, so two questions about
others fail. -/
def failing : List Move := [.get "carol", .wait 5, .get "alice", .get "bob"] ++ created

theorem outage_shows_failing :
    (ofGateway (some impatient.gateway) {} none = .ok ofLocalHost
      ∧ ofLocalHost.gateway.access.plane = .admin
      ∧ Address.ofBase ofLocalHost.gateway.access.base = .ok Access.localHost
      ∧ Access.localHost.isHttp = true
      ∧ impatient.resilience.failureThreshold ≤ Breaker.countLimit)
    ∧ ofLocalHost.lastFailing impatient failing = some 200000005
    ∧ (ofLocalHost.get "dave" (ofLocalHost.run impatient ([.wait 1000000000] ++ failing))).1
      = some (.error (.circuitOpen "consumer_secret_get"))
    ∧ Answers ofLocalHost (ofLocalHost.run impatient ([.wait 1000000000] ++ failing)) "alice"
      { id := "1", key := "k", secret := "s", owner := some "alice" } := by
  have hb : ofGateway (some impatient.gateway) {} none = .ok ofLocalHost := by decide +kernel
  have hu : Address.ofBase ofLocalHost.gateway.access.base = .ok Access.localHost := by
    decide +kernel
  have hh : Access.localHost.isHttp = true := by decide
  have hl : impatient.resilience.failureThreshold ≤ Breaker.countLimit := by decide
  have hlast : ofLocalHost.lastFailing impatient failing = some 200000005 := by decide +kernel
  obtain ⟨f, hf, hshut⟩ := (outage_shows hb rfl hu hh hl).2.2 failing
    (by simp [failing, created, Renews]) (by decide +kernel)
  obtain rfl := Option.some.inj (hlast.symm.trans hf)
  have hthen := hshut [.wait 1000000000] (by simp [Renews]) _ rfl (by decide +kernel)
  have hr : Remembers (ofLocalHost.run impatient ([.wait 1000000000] ++ failing)) "alice"
      { id := "1", key := "k", secret := "s", owner := some "alice" } :=
    ⟨⟨_, 0, 2000000000, 0⟩, by decide +kernel, by decide +kernel, rfl⟩
  refine ⟨⟨hb, rfl, hu, hh, hl⟩, hlast, ?_, (hthen "alice").2 _ hr⟩
  rw [(hthen "dave").1 (by decide +kernel)]
  rfl

end Broker
end SecretBroker
