import SecretBroker.Proofs.Broker.Recall
import SecretBroker.Proofs.Gateway.Isolation

/-!
# Health checks and questions about consumers

A health check and a question about a consumer have no breaker in common, and a health check has
nothing to do with the cache. So neither learns anything of the other: what a health check comes to
is what it would come to if only the health checks before it had happened, and what a question about
a consumer comes to, it would come to without them (`isolated`).
-/

namespace SecretBroker.Broker

/-- The states have the cache, the time, the gateway and the breakers under these names in common. -/
structure Alike (names : List String) (s s' : State) : Prop where
  cache : s'.cache = s.cache
  session : s.session.Alike names s'.session

section
variable {b : Broker} {names : List String} {s s' : State}

theorem alike_of_enquire {id : String} {op : Operation} {call : String → Except GatewayError Call}
    {read : String → Response → Except GatewayError (Option ConsumerSecret)}
    {x : State → Result × State}
    (hx : ∀ s, x s = match b.gateway.enquire id call read s.session with
      | (r, session) => (r, { cache := learnt id session.now s.cache r, session }))
    (hc : ∀ consumer c, call consumer = .ok c → c.Belongs op)
    (ho : op ∉ Gateway.stages b.gateway.access.plane)
    (hn : (Gateway.stages b.gateway.access.plane ++ [op]).map Operation.name ⊆ names)
    (h : Alike names s s') : (x s').1 = (x s).1 ∧ Alike names (x s).2 (x s').2 := by
  obtain ⟨trips, -, hs⟩ := Gateway.alongside_enquire (Transport.carries_alike _ names) id hc ho read
    s.session
  obtain ⟨hr, -, ha⟩ := hs [] s'.session ⟨hn, h.session⟩
  rw [hx, hx]
  rcases he : b.gateway.enquire id call read s.session with ⟨r, s₁⟩
  rcases he' : b.gateway.enquire id call read s'.session with ⟨r', s₁'⟩
  rw [he, he'] at hr ha
  obtain rfl : r' = r := hr
  obtain ⟨breakers, sent, hb, rfl⟩ := ha
  refine ⟨rfl, ?_, breakers, sent, hb, rfl⟩
  dsimp only
  rw [h.cache]

/-- The names of the breakers that questions about consumers use. -/
def consumerBreakers (b : Broker) : List String :=
  (.secretGet :: .secretCreate :: Gateway.stages b.gateway.access.plane).map Operation.name

theorem map_stages_subset (b : Broker) {op : Operation} (h : op = .secretGet ∨ op = .secretCreate) :
    (Gateway.stages b.gateway.access.plane ++ [op]).map Operation.name ⊆ b.consumerBreakers := by
  refine List.map_subset _ fun o ho => ?_
  rcases List.mem_append.1 ho with ho | ho
  · exact List.mem_cons_of_mem _ (List.mem_cons_of_mem _ ho)
  · rw [List.mem_singleton] at ho
    rcases h with rfl | rfl
    · exact ho ▸ List.mem_cons_self
    · exact ho ▸ List.mem_cons_of_mem _ List.mem_cons_self

variable (b)

theorem alike_fetch (id : String) (h : Alike b.consumerBreakers s s') :
    (b.fetch id s').1 = (b.fetch id s).1
    ∧ Alike b.consumerBreakers (b.fetch id s).2 (b.fetch id s').2 :=
  alike_of_enquire (b.fetch_apply id) (fun _ _ hc => Gateway.belongs_of_reading hc rfl)
    (Gateway.not_mem_stages _).1 (b.map_stages_subset (.inl rfl)) h

theorem alike_get (id : String) (h : Alike b.consumerBreakers s s') :
    (b.get id s').1 = (b.get id s).1
    ∧ Alike b.consumerBreakers (b.get id s).2 (b.get id s').2 := by
  obtain ⟨breakers, sent, hb, hs⟩ := h.session
  have hc : s'.cache.get id s'.session.now = s.cache.get id s.session.now := by rw [h.cache, hs]
  rcases hget : (s.cache.get id s.session.now).1 with _ | secret
  · rw [get_of_miss hget, get_of_miss (by rwa [hc]), hc]
    exact b.alike_fetch id ⟨rfl, h.session⟩
  · rw [get_of_hit hget, get_of_hit (by rwa [hc]), hc]
    exact ⟨rfl, rfl, h.session⟩

theorem alike_create (id : String) (fresh : NewCredential) (h : Alike b.consumerBreakers s s') :
    (b.create id fresh s').1 = (b.create id fresh s).1
    ∧ Alike b.consumerBreakers (b.create id fresh s).2 (b.create id fresh s').2 :=
  alike_of_enquire (b.create_apply id fresh)
    (fun _ _ hc => Gateway.belongs_of_writing hc rfl) (Gateway.not_mem_stages _).2
    (b.map_stages_subset (.inr rfl)) h

theorem alike_health (h : s.session.Alike [Operation.healthCheck.name] s'.session) :
    (b.health s').1 = (b.health s).1
    ∧ (b.health s).2.session.Alike [Operation.healthCheck.name] (b.health s').2.session := by
  have hcall (c : Call) (hc : b.healthCall = .ok c) : c.Belongs .healthCheck :=
    Gateway.belongs_of_reading hc rfl
  obtain ⟨trips, -, hs⟩ := Gateway.alongside_ask
    (Transport.carries_alike _ [Operation.healthCheck.name]) hcall (List.not_mem_nil) s.session
  obtain ⟨hr, -, ha⟩ := hs [] s'.session ⟨List.Subset.refl _, h⟩
  rw [health_apply, health_apply]
  rcases he : (do b.gateway.ask (← b.healthCall) : Inquiry Response) s.session with ⟨r, s₁⟩
  rcases he' : (do b.gateway.ask (← b.healthCall) : Inquiry Response) s'.session with ⟨r', s₁'⟩
  rw [he, he'] at hr ha
  obtain rfl : r' = r := hr
  obtain ⟨breakers, sent, hb, hs'⟩ := h
  obtain ⟨breakers', sent', hb', rfl⟩ := ha
  refine ⟨?_, breakers', sent', hb', rfl⟩
  dsimp only
  rw [hs']

end

/-- When something is asked, until when, what the gateway does then, and what is drawn for delays. -/
structure Occasion where
  now : Instant
  deadline : Option Instant
  script : List (Request → Arrival)
  later : Request → Arrival
  draws : Nat → Draw := fun _ => .middle

/-- The state on an occasion. -/
def State.on (s : State) (w : Occasion) : State :=
  { s with session := { s.session with
    now := w.now, deadline := w.deadline, script := w.script, later := w.later, draws := w.draws } }

/-- What a user of the broker does. -/
inductive Question where
  | get (id : String)
  | create (id : String) (fresh : NewCredential)
  | clear (id : Option String)
  | health

namespace Question

/-- Whether it is a health check. -/
def isHealth : Question → Bool
  | .health => true
  | _ => false

def move : Question → Move
  | .get id => .get id
  | .create id fresh => .create id fresh
  | .clear id => .clear id
  | .health => .health

end Question

/-- Where questions lead, each put on an occasion of its own; the latest first. -/
def after (b : Broker) (s : State) : List (Occasion × Question) → State
  | [] => s
  | (w, q) :: past => b.step ((after b s past).on w) q.move

section
variable {b : Broker} {names : List String} {s s' : State}

theorem State.alike_on (h : s.session.breakers.Alike names s'.session.breakers) (w : Occasion) :
    (s.on w).session.Alike names (s'.on w).session :=
  ⟨s'.session.breakers, s'.session.sent, h, rfl⟩

variable (b)

theorem step_alike {q : Question} (hq : q.isHealth = false) (h : Alike b.consumerBreakers s s') :
    Alike b.consumerBreakers (b.step s q.move) (b.step s' q.move) := by
  rcases q with id | ⟨id, fresh⟩ | id | _
  · exact (b.alike_get id h).2
  · exact (b.alike_create id fresh h).2
  · refine ⟨?_, h.session⟩
    dsimp only [Question.move, step, State.clear]
    rw [h.cache]
  · cases hq

theorem health_not_mem_consumerBreakers :
    Operation.healthCheck.name ∉ b.consumerBreakers := by
  unfold consumerBreakers
  rcases b.gateway.access.plane with _ | p
  · decide
  · simp only [Gateway.stages]
    decide

theorem onward_step {q : Question} (hq : q.isHealth = false) (s : State) :
    s.session.Onward b.consumerBreakers (b.step s q.move).session := by
  have hs := List.subset_cons_self Operation.secretCreate.name
    (Gateway.resolving b.gateway.access.plane)
  rw [consumerBreakers, List.map_cons, List.map_cons, Gateway.map_stages]
  rcases q with id | ⟨id, fresh⟩ | id | _
  · exact (b.onward_get id s).mono (List.cons_subset_cons _ hs)
  · exact (b.onward_create id fresh s).mono (List.subset_cons_self _ _)
  · exact Std.Refl.refl s.session
  · cases hq

variable (s)

/-- To a question about a consumer it is as if no health check had happened. -/
theorem after_consumers : ∀ past : List (Occasion × Question),
    (b.after s past).cache = (b.after s (past.filter (!·.2.isHealth))).cache
    ∧ (b.after s (past.filter (!·.2.isHealth))).session.breakers.Alike b.consumerBreakers
      (b.after s past).session.breakers
  | [] => ⟨rfl, rfl, fun _ _ => rfl⟩
  | (w, q) :: past => by
    obtain ⟨hc, hb⟩ := after_consumers past
    by_cases hq : q.isHealth = true
    · rw [List.filter_cons_of_neg (by simp [hq])]
      obtain rfl : q = .health := by
        cases q
        case health => rfl
        all_goals cases hq
      have ho := b.onward_health ((b.after s past).on w)
      refine ⟨(b.health_cache _).trans hc, (State.alike_on hb w).breakers.onward ho ?_⟩
      intro n hn hh
      rw [List.mem_singleton.1 hh] at hn
      exact b.health_not_mem_consumerBreakers hn
    · rw [Bool.not_eq_true] at hq
      rw [List.filter_cons_of_pos (by simp [hq])]
      have ha : Alike b.consumerBreakers ((b.after s (past.filter (!·.2.isHealth))).on w)
        ((b.after s past).on w) := ⟨hc, State.alike_on hb w⟩
      have h := b.step_alike hq ha
      exact ⟨h.cache, h.session.breakers⟩

/-- To a health check it is as if only the health checks had happened. -/
theorem after_health : ∀ past : List (Occasion × Question),
    (b.after s (past.filter (·.2.isHealth))).session.breakers.Alike [Operation.healthCheck.name]
      (b.after s past).session.breakers
  | [] => ⟨rfl, fun _ _ => rfl⟩
  | (w, q) :: past => by
    have ih := after_health past
    by_cases hq : q.isHealth = true
    · rw [List.filter_cons_of_pos (by simp [hq])]
      obtain rfl : q = .health := by
        cases q
        case health => rfl
        all_goals cases hq
      exact (b.alike_health (State.alike_on ih w)).2.breakers
    · rw [Bool.not_eq_true] at hq
      rw [List.filter_cons_of_neg (by simp [hq])]
      have ho := b.onward_step hq ((b.after s past).on w)
      refine (State.alike_on ih w).breakers.onward ho fun n hn hh => ?_
      rw [List.mem_singleton.1 hn] at hh
      exact b.health_not_mem_consumerBreakers hh

end

/-- A health check and a question about a consumer touch no breakers but their own, and a health
check does not touch the cache. So what was asked of either kind is as good as never asked to the
other, however it was answered. -/
theorem isolated (b : Broker) (s : State) :
    ((b.health s).2.cache = s.cache
      ∧ ∀ n, n ≠ "health_check" →
        (b.health s).2.session.breakers.find? n = s.session.breakers.find? n)
    ∧ (b.mode = .admin → ∀ id fresh n,
      (n ≠ "consumer_secret_get" →
        (b.get id s).2.session.breakers.find? n = s.session.breakers.find? n)
      ∧ (n ≠ "consumer_secret_create" →
        (b.create id fresh s).2.session.breakers.find? n = s.session.breakers.find? n))
    ∧ (b.mode = .cloud → ∀ id fresh n,
      n ∉ ["realm_check", "realm_create", "consumer_resolve", "consumer_search"] →
      (n ≠ "consumer_secret_get" →
        (b.get id s).2.session.breakers.find? n = s.session.breakers.find? n)
      ∧ (n ≠ "consumer_secret_create" →
        (b.create id fresh s).2.session.breakers.find? n = s.session.breakers.find? n))
    ∧ ∀ (past : List (Occasion × Question)) (w : Occasion),
      (b.health ((b.after s past).on w)).1
        = (b.health ((b.after s (past.filter (·.2.isHealth))).on w)).1
      ∧ ∀ id fresh, (b.get id ((b.after s past).on w)).1
          = (b.get id ((b.after s (past.filter (!·.2.isHealth))).on w)).1
        ∧ (b.create id fresh ((b.after s past).on w)).1
          = (b.create id fresh ((b.after s (past.filter (!·.2.isHealth))).on w)).1 := by
  refine ⟨⟨b.health_cache s, fun n hn => ?_⟩, fun hm id fresh n => ?_, fun hm id fresh n hr => ?_,
    fun past w => ⟨?_, fun id fresh => ?_⟩⟩
  · exact (b.onward_health s).others n (mt List.mem_singleton.1 hn)
  · have hg := (b.onward_get id s).others n
    have hc := (b.onward_create id fresh s).others n
    rcases hp : b.gateway.access.plane with _ | p
    · rw [hp] at hg hc
      exact ⟨fun hn => hg (mt List.mem_singleton.1 hn), fun hn => hc (mt List.mem_singleton.1 hn)⟩
    · rw [mode, Access.mode, hp] at hm
      cases hm
  · have hg := (b.onward_get id s).others n
    have hc := (b.onward_create id fresh s).others n
    rcases hp : b.gateway.access.plane with _ | p
    · rw [mode, Access.mode, hp] at hm
      cases hm
    · rw [hp] at hg hc
      exact ⟨fun hn => hg (List.not_mem_cons_of_ne_of_not_mem hn hr),
        fun hn => hc (List.not_mem_cons_of_ne_of_not_mem hn hr)⟩
  · exact (b.alike_health (State.alike_on (b.after_health s past) w)).1
  · obtain ⟨hc, hb⟩ := b.after_consumers s past
    have ha : Alike b.consumerBreakers ((b.after s (past.filter (!·.2.isHealth))).on w)
      ((b.after s past).on w) := ⟨hc, State.alike_on hb w⟩
    exact ⟨(b.alike_get id ha).1, (b.alike_create id fresh ha).1⟩

/-- The first second, with a gateway that cannot be reached. -/
def lonely : Occasion where
  now := 1000000000
  deadline := none
  script := []
  later := fun _ => .unreachable []

/-- A question that uses four breakers leaves the fifth and that of health checks alone, and a health
check after it comes to what it would come to without it. -/
theorem isolated_unknown :
    ofLocalHost.mode = .admin
    ∧ (ofLocalHost.get "a" unknown).2.session.breakers.find? "realm_check" = none
    ∧ ofLocalPlane.mode = .cloud
    ∧ (ofLocalPlane.get "a" unknown).2.session.breakers.breakers.map (·.1)
      = ["realm_check", "realm_create", "consumer_resolve", "consumer_search"]
    ∧ (ofLocalPlane.get "a" unknown).2.session.breakers.find? "health_check" = none
    ∧ (ofLocalPlane.health ((ofLocalPlane.after unknown [(lonely, .get "a")]).on lonely)).1
      = (ofLocalPlane.health (unknown.on lonely)).1 := by
  have ha : ofLocalHost.mode = .admin := rfl
  have hc : ofLocalPlane.mode = .cloud := rfl
  have fresh : NewCredential := ⟨"k", "s"⟩
  have hadmin := ((isolated ofLocalHost unknown).2.1 ha "a" fresh "realm_check").1 (by decide)
  have hcloud := ((isolated ofLocalPlane unknown).2.2.1 hc "a" fresh "health_check" (by decide)).1
    (by decide)
  have hpurged := ((isolated ofLocalPlane unknown).2.2.2 [(lonely, .get "a")] lonely).1
  exact ⟨ha, hadmin, hc, by decide +kernel, hcloud, hpurged⟩

end SecretBroker.Broker
