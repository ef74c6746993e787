import SecretBroker.Proofs.Broker.Sessionwise
import SecretBroker.Proofs.Cache.Usage
import SecretBroker.Proofs.Gateway.Onward

/-!
# A broker in use

What can be asked of a broker, in any order, while time passes and the gateway does as it likes. A
history lists the moves so far, the latest first, and `run` is where they lead.

A question about a consumer writes to the cache at one point: it sets the secret that it returns, if
it did not come from there (`fetch_cache`, `create_cache`). So the cache of a broker in use is a
cache in use (`run_cacheHistory`).
-/

namespace SecretBroker.Broker

section
variable (b : Broker) (id : String)

theorem fetch_cache (s : State) : (b.fetch id s).2.cache
    = learnt id (b.fetch id s).2.session.now s.cache (b.fetch id s).1 := by
  rw [fetch_apply]
  rfl

theorem create_cache (fresh : NewCredential) (s : State) : (b.create id fresh s).2.cache
    = learnt id (b.create id fresh s).2.session.now s.cache (b.create id fresh s).1 := by
  rw [create_apply]
  rfl

end

/-- The session of a broker goes on. -/
def Onward (names : List String) (s s' : State) : Prop :=
  s.session.Onward names s'.session

section
variable (b : Broker) (id : String)

theorem map_stages_append (op : Operation) :
    (Gateway.stages b.gateway.access.plane ++ [op]).map Operation.name
      ⊆ op.name :: Gateway.resolving b.gateway.access.plane := by
  rw [List.map_append, Gateway.map_stages]
  simp

theorem onward_get :
    Leads (Onward (Operation.secretGet.name :: Gateway.resolving b.gateway.access.plane))
      (b.get id) :=
  fun s => (b.course_get (Gateway.course_onward _) id s).mono (b.map_stages_append _)

theorem onward_create (fresh : NewCredential) :
    Leads (Onward (Operation.secretCreate.name :: Gateway.resolving b.gateway.access.plane))
      (b.create id fresh) :=
  fun s => (b.course_create (Gateway.course_onward _) id fresh s).mono (b.map_stages_append _)

theorem onward_health : Leads (Onward [Operation.healthCheck.name]) b.health :=
  fun s => b.course_health (Gateway.course_onward _) s

end

/-- What can be asked of a broker, and what goes on around it: time passes, the gateway turns to
another script and chance to other draws, and those who wait set another deadline. -/
inductive Move where
  | get (id : String)
  | create (id : String) (fresh : NewCredential)
  | health
  | clear (id : Option String)
  | reset (operation : String)
  | resetAll
  | wait (span : Nat)
  | turn (script : List (Request → Arrival)) (later : Request → Arrival)
    (deadline : Option Instant) (draws : Nat → Draw := fun _ => .middle)

/-- What a move leads to. -/
def step (b : Broker) (s : State) : Move → State
  | .get id => (b.get id s).2
  | .create id fresh => (b.create id fresh s).2
  | .health => (b.health s).2
  | .clear id => s.clear id
  | .reset operation => (s.reset operation).2
  | .resetAll => s.resetAll
  | .wait span => { s with session.now := s.session.now + span }
  | .turn script later deadline draws =>
    { s with session := { s.session with script, later, deadline, draws } }

/-- Where a history leads: the moves so far, the latest first. -/
def run (b : Broker) (settings : Settings) : List Move → State
  | [] => .start settings
  | m :: past => b.step (run b settings past) m

section
variable (b : Broker) (settings : Settings)

theorem run_cons (m : Move) (past : List Move) :
    b.run settings (m :: past) = b.step (b.run settings past) m := rfl

theorem now_le_step (s : State) (m : Move) : s.session.now ≤ (b.step s m).session.now := by
  rcases m with id | ⟨id, fresh⟩ | _ | _ | _ | _ | span | _
  · exact (b.onward_get id s).now_le
  · exact (b.onward_create id fresh s).now_le
  · exact (b.onward_health s).now_le
  · exact Nat.le_refl _
  · exact Nat.le_refl _
  · exact Nat.le_refl _
  · exact Nat.le_add_right _ _
  · exact Nat.le_refl _

theorem policy_step (s : State) (m : Move) :
    (b.step s m).session.breakers.policy = s.session.breakers.policy := by
  rcases m with id | ⟨id, fresh⟩ | _ | _ | op | _ | _ | _
  · exact (b.onward_get id s).policy
  · exact (b.onward_create id fresh s).policy
  · exact (b.onward_health s).policy
  · rfl
  · simp only [step, State.reset, Breaker.Registry.reset]
    split
    · rfl
    · rfl
  · rfl
  · rfl
  · rfl

theorem policy_run : ∀ h : List Move,
    (b.run settings h).session.breakers.policy = breakerPolicy settings.resilience
  | [] => rfl
  | m :: past => (b.policy_step _ m).trans (policy_run past)

theorem resetTimeout_run (h : List Move) :
    (b.run settings h).session.breakers.policy.resetTimeout = settings.resilience.resetTimeout :=
  congrArg Breaker.Policy.resetTimeout (b.policy_run settings h)

/-- The secret that a move stores, and for whom. -/
def stored (s : State) : Move → Option (String × ConsumerSecret)
  | .get id =>
    match (s.cache.get id s.session.now).1 with
    | some _ => none
    | none => (secret? (b.get id s).1).map (id, ·)
  | .create id fresh => (secret? (b.create id fresh s).1).map (id, ·)
  | _ => none

/-- The cache when a move stores its secret, or is done without one. -/
def touched (s : State) : Move → Cache
  | .get id => (s.cache.get id s.session.now).2
  | .clear id => (s.clear id).cache
  | _ => s.cache

theorem cache_step (s : State) (m : Move) : (b.step s m).cache
    = match b.stored s m with
      | some (id, secret) => (touched s m).set id secret none (b.step s m).session.now
      | none => touched s m := by
  rcases m with id | ⟨id, fresh⟩ | _ | _ | _ | _ | _ | _
  · rcases hc : (s.cache.get id s.session.now).1 with _ | secret
    · simp only [step, stored, touched, hc]
      rw [get_of_miss hc, fetch_cache, learnt]
      rcases secret? (b.fetch id { s with cache := (s.cache.get id s.session.now).2 }).1 with _ | v
      · rfl
      · rfl
    · simp only [step, stored, touched, hc]
      rw [get_of_hit hc]
  · simp only [step, stored, touched]
    rw [create_cache, learnt]
    rcases secret? (b.create id fresh s).1 with _ | v
    · rfl
    · rfl
  · simp only [step, stored, touched]
    rw [health_cache]
  · rfl
  · rfl
  · rfl
  · rfl
  · rfl

/-- What a move asks of the cache. -/
def touches : Move → List Cache.Move
  | .get id => [.get id]
  | .clear (some id) => [.delete id]
  | .clear none => [.clear]
  | _ => []

/-- What a move comes to for the cache before it stores anything, the latest first. -/
def leadUp (s : State) (m : Move) : List Cache.Move :=
  .wait ((b.step s m).session.now - s.session.now) :: touches m

/-- What a move comes to for the cache, the latest first. -/
def cacheMoves (s : State) (m : Move) : List Cache.Move :=
  match b.stored s m with
  | some (id, secret) => .set id secret none :: b.leadUp s m
  | none => b.leadUp s m

/-- What a history comes to for the cache. -/
def cacheHistory : List Move → List Cache.Move
  | [] => []
  | m :: past => b.cacheMoves (b.run settings past) m ++ cacheHistory past

/-- The cache of a broker and its clock. -/
def State.clocked (s : State) : Cache.Clocked := ⟨s.session.now, s.cache⟩

variable {b settings} {p : Cache.Policy} {h : List Cache.Move} {s : State}

theorem run_touches (hs : Cache.run p h = s.clocked) (m : Move) :
    Cache.run p (touches m ++ h) = ⟨s.session.now, touched s m⟩ := by
  rcases m with id | _ | _ | (_ | id) | _ | _ | _ | _
  · exact congrArg (·.step (.get id)) hs
  · exact hs
  · exact hs
  · exact congrArg (·.step .clear) hs
  · exact congrArg (·.step (.delete id)) hs
  · exact hs
  · exact hs
  · exact hs
  · exact hs

theorem run_leadUp (hs : Cache.run p h = s.clocked) (m : Move) :
    Cache.run p (b.leadUp s m ++ h) = ⟨(b.step s m).session.now, touched s m⟩ := by
  rw [leadUp, List.cons_append, Cache.run_cons, run_touches hs, Cache.Clocked.step,
    Nat.add_sub_of_le (b.now_le_step s m)]

/-- What a move does to the cache, it does by what it asks of it. -/
theorem run_cacheMoves (hs : Cache.run p h = s.clocked) (m : Move) :
    Cache.run p (b.cacheMoves s m ++ h) = (b.step s m).clocked := by
  have hrun := run_leadUp (b := b) hs m
  rw [cacheMoves, State.clocked, cache_step]
  rcases b.stored s m with _ | ⟨id, secret⟩
  · exact hrun
  · exact congrArg (·.step (.set id secret none)) hrun

/-- The cache of a broker in use is a cache in use. -/
theorem run_cacheHistory (b : Broker) (settings : Settings) : ∀ h : List Move,
    Cache.run settings.cache (b.cacheHistory settings h) = (b.run settings h).clocked
  | [] => rfl
  | m :: past => run_cacheMoves (run_cacheHistory b settings past) m

theorem wellFormed_run (b : Broker) (settings : Settings) (h : List Move) :
    Cache.WellFormed (b.run settings h).session.now (b.run settings h).cache := by
  have hw := Cache.wellFormed_run (p := settings.cache) (b.cacheHistory settings h)
  rwa [run_cacheHistory] at hw

end
end SecretBroker.Broker
