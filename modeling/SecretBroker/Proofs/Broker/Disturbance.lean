import SecretBroker.Proofs.Broker.Sessionwise
import SecretBroker.Proofs.Gateway.Disturbance

/-!
# Questions through disturbances

Where the retries make up for all hiccups, a question comes to the same as without them. What the
broker returns, keeps and counts is the same, and so is what its breakers heard (`undisturbed`);
only more time has passed and more has been sent.
-/

namespace SecretBroker

namespace Cache

theorem erase_counts (c : Cache) (key : String) :
    (c.erase key).hits = c.hits ∧ (c.erase key).misses = c.misses := by
  unfold erase
  split
  · exact ⟨rfl, rfl⟩
  · exact ⟨rfl, rfl⟩

/-- What is stored neither hits nor misses. -/
theorem set_counts (c : Cache) (key : String) (value : ConsumerSecret) (ttl : Option Int)
    (now : Instant) : (c.set key value ttl now).hits = c.hits
      ∧ (c.set key value ttl now).misses = c.misses := by
  have hfold : ∀ (l : List (String × Entry)) (c : Cache),
      (l.foldl (fun c e => c.erase e.1) c).hits = c.hits
      ∧ (l.foldl (fun c e => c.erase e.1) c).misses = c.misses := by
    intro l
    induction l with
    | nil => exact fun c => ⟨rfl, rfl⟩
    | cons e l ih =>
      intro c
      obtain ⟨hh, hm⟩ := c.erase_counts e.1
      exact ⟨(ih _).1.trans hh, (ih _).2.trans hm⟩
  have hevict (c : Cache) : c.evict.hits = c.hits ∧ c.evict.misses = c.misses := by
    unfold evict
    split
    · exact ⟨rfl, rfl⟩
    · exact ⟨rfl, rfl⟩
  have hpurge : (c.purge now).hits = c.hits ∧ (c.purge now).misses = c.misses := hfold _ c
  have hroom : (c.makeRoom now).hits = c.hits ∧ (c.makeRoom now).misses = c.misses := by
    unfold makeRoom
    split
    · exact ⟨rfl, rfl⟩
    · dsimp only
      split
      · exact hpurge
      · obtain ⟨hh, hm⟩ := hevict (c.purge now)
        exact ⟨hh.trans hpurge.1, hm.trans hpurge.2⟩
  unfold set
  dsimp only
  split
  · exact c.erase_counts key
  · exact hroom

/-- The caches have the same secret under the key, and have counted the same. -/
structure SameFor (key : String) (c c' : Cache) : Prop where
  secret : (c'.find? key).map Entry.value = (c.find? key).map Entry.value
  hits : c'.hits = c.hits
  misses : c'.misses = c.misses

end Cache

namespace Broker

open Session

theorem sameFor_learnt {id : String} {now now' : Instant} {c : Cache} {r r' : Result}
    (h : r' = r) : Cache.SameFor id (learnt id now c r) (learnt id now' c r') := by
  rw [h]
  unfold learnt
  split
  · rename_i secret _
    obtain ⟨e, he, hv⟩ := c.find?_set id secret none now
    obtain ⟨e', he', hv'⟩ := c.find?_set id secret none now'
    obtain ⟨hh, hm⟩ := c.set_counts id secret none now
    obtain ⟨hh', hm'⟩ := c.set_counts id secret none now'
    refine ⟨?_, hh'.trans hh.symm, hm'.trans hm.symm⟩
    rw [he, he', Option.map_some, Option.map_some, hv, hv']
  · exact ⟨rfl, rfl, rfl⟩

/-- How long it took to learn of a gateway's health does not tell how it is. -/
theorem sameHealth {r r' : Option (Except GatewayError Response)} (h : r' = r) (span span' : Nat) :
    (r'.map (diagnosis · span')).map (fun x => (x.healthy, x.error))
      = (r.map (diagnosis · span)).map fun x => (x.healthy, x.error) := by
  rw [h, Option.map_map, Option.map_map]
  rfl

/-- The state with a gateway that does this, and with these draws for the delays. -/
def State.facing (s : State) (script : List (Request → Arrival)) (later : Request → Arrival)
    (draws : Nat → Draw) : State :=
  { s with session := { s.session with script, later, draws } }

variable {s : State}

theorem undisturbed_fetch (b : Broker) (id : String) (h : s.session.Calm)
    {script : List (Request → Arrival)} {later : Request → Arrival} {draws : Nat → Draw}
    (hr : s.session.Replays b.gateway.transport (b.fetch id s).2.session
      (s.facing script later draws).session) :
    (b.fetch id (s.facing script later draws)).1 = (b.fetch id s).1
    ∧ Cache.SameFor id (b.fetch id s).2.cache (b.fetch id (s.facing script later draws)).2.cache
    ∧ s.session.Repeats b.gateway.transport (b.fetch id s).2.session
      (s.facing script later draws).session (b.fetch id (s.facing script later draws)).2.session := by
  have hcall (consumer : String) (c : Call) (hc : b.getCall id consumer = .ok c) :
      c.Belongs .secretGet := Gateway.belongs_of_reading hc rfl
  obtain ⟨hget, hcreate⟩ := Gateway.not_mem_stages b.gateway.access.plane
  have hx := Gateway.alongside_enquire
    (Transport.carries_disturbed _ s.session (s.facing script later draws).session) id hcall hget
    (fun _ => secretIn)
  have hF : Operation.secretCreate ∉ Gateway.stages b.gateway.access.plane ++ [.secretGet] := by
    simpa using hcreate
  rw [fetch_apply] at hr
  obtain ⟨he, hrepeats⟩ := h.alongside hx hF hr
  rw [fetch_apply, fetch_apply]
  exact ⟨he, sameFor_learnt he, hrepeats⟩

/-- A question to a broker whose breakers are closed, and a health check, come to the same if before
each reply that they got there come hiccups, fewer than a call has attempts. -/
theorem undisturbed (b : Broker) (id : String) (s : State) (h : s.session.Calm)
    (script : List (Request → Arrival)) (later : Request → Arrival) (draws : Nat → Draw) :
    (s.session.Replays b.gateway.transport (b.get id s).2.session (s.facing script later draws).session →
      (b.get id (s.facing script later draws)).1 = (b.get id s).1
      ∧ Cache.SameFor id (b.get id s).2.cache (b.get id (s.facing script later draws)).2.cache
      ∧ s.session.Repeats b.gateway.transport (b.get id s).2.session
        (s.facing script later draws).session (b.get id (s.facing script later draws)).2.session)
    ∧ (s.session.Replays b.gateway.transport (b.health s).2.session
        (s.facing script later draws).session →
      (b.health (s.facing script later draws)).1.map (fun x => (x.healthy, x.error))
        = (b.health s).1.map (fun x => (x.healthy, x.error))
      ∧ s.session.Repeats b.gateway.transport (b.health s).2.session
        (s.facing script later draws).session (b.health (s.facing script later draws)).2.session) := by
  constructor
  · intro hr
    rcases hget : (s.cache.get id s.session.now).1 with _ | secret
    · have hget' : ((s.facing script later draws).cache.get id
          (s.facing script later draws).session.now).1 = none := hget
      rw [get_of_miss hget] at hr ⊢
      rw [get_of_miss hget']
      exact b.undisturbed_fetch (s := { s with cache := (s.cache.get id s.session.now).2 }) id h hr
    · have hget' : ((s.facing script later draws).cache.get id
          (s.facing script later draws).session.now).1 = some secret := hget
      rw [get_of_hit hget, get_of_hit hget']
      exact ⟨rfl, ⟨rfl, rfl, rfl⟩, ⟨[], .refl _, .refl _⟩, fun n => rfl⟩
  · intro hr
    have hcall (c : Call) (hc : b.healthCall = .ok c) : c.Belongs .healthCheck :=
      Gateway.belongs_of_reading hc rfl
    have hx := Gateway.alongside_ask (g := b.gateway) (Transport.carries_disturbed _ s.session
      (s.facing script later draws).session) hcall List.not_mem_nil
    rw [health_apply] at hr
    obtain ⟨he, hrepeats⟩ := h.alongside hx (by simp) hr
    rw [health_apply, health_apply]
    exact ⟨sameHealth he _ _, hrepeats⟩

/-- The plane has no realm yet and knows the consumer, who has no secret, by its name only. -/
def named : State where
  session := { script := [
    fun _ => .answer 404 "" .zero, fun _ => .answer 201 "" .zero, fun _ => .answer 404 "" .zero,
    fun _ => .answer 200 "\x7b\"data\":[\x7b\"username\":\"a\",\"id\":\"b\"\x7d]\x7d" .zero,
    fun _ => .answer 404 "" .zero] }

/-- The same, with a hiccup of its own kind before each answer. -/
def hindered : List (Request → Arrival) := [
  fun _ => .silence, fun _ => .answer 404 "" .zero,
  fun _ => .lost, fun _ => .answer 201 "" .zero,
  fun _ => .brokenOff, fun _ => .answer 404 "" .zero,
  fun _ => .unreachable [],
  fun _ => .answer 200 "\x7b\"data\":[\x7b\"username\":\"a\",\"id\":\"b\"\x7d]\x7d" .zero,
  fun _ => .answer 200 "" (.ofSecs 6), fun _ => .answer 404 "" .zero]

theorem undisturbed_hindered :
    named.session.Calm
    ∧ named.session.Replays ofLocalPlane.gateway.transport (ofLocalPlane.get "a" named).2.session
      (named.facing hindered named.session.later fun _ => .greatest).session
    ∧ (ofLocalPlane.get "a" (named.facing hindered named.session.later fun _ => .greatest)).1
      = (ofLocalPlane.get "a" named).1
    ∧ (ofLocalPlane.get "a" named).1
      = some (.ok none) := by
  have hcalm : named.session.Calm := by
    refine ⟨fun n => rfl, rfl, fun i r => ?_⟩
    rcases i with _ | _ | _ | _ | _ | i <;> exact ⟨_, _, _, rfl⟩
  have hr : named.session.Replays ofLocalPlane.gateway.transport
      (ofLocalPlane.get "a" named).2.session
      (named.facing hindered named.session.later fun _ => .greatest).session :=
    ⟨(ofLocalPlane.get "a" named).2.session.sent, (List.nil_append _).symm, by decide +kernel,
      by decide +kernel⟩
  exact ⟨hcalm, hr, ((undisturbed ofLocalPlane "a" named hcalm _ _ _).1 hr).1, by decide +kernel⟩

end Broker
end SecretBroker
