import SecretBroker.Proofs.Cache.Order

/-!
# A cache in use

What can be asked of a cache, in any order, while time passes. As with breakers, a history lists the
moves so far, the latest first, and `run` is where they lead.

Every state that a history leads to is well-formed (`wellFormed_run`), so the order and the entries
are each other's inverse and the cache stays within its bound (`order_mirrors_entries`).
-/

namespace SecretBroker.Cache

/-- What can be asked of a cache. -/
inductive Move where
  | get (key : String)
  | set (key : String) (value : ConsumerSecret) (ttl : Option Int)
  | delete (key : String)
  | clear
  | wait (span : Nat)
deriving DecidableEq

/-- A cache and its clock. -/
structure Clocked where
  now : Instant := 0
  cache : Cache := {}
deriving DecidableEq, Repr

/-- What a move leads to. -/
def Clocked.step (s : Clocked) : Move → Clocked
  | .get key => { s with cache := (s.cache.get key s.now).2 }
  | .set key value ttl => { s with cache := s.cache.set key value ttl s.now }
  | .delete key => { s with cache := s.cache.delete key }
  | .clear => { s with cache := s.cache.clear }
  | .wait span => { s with now := s.now + span }

/-- Where a history leads: the moves so far, the latest first. -/
def run (p : Policy) : List Move → Clocked
  | [] => { cache := { policy := p } }
  | m :: past => (run p past).step m

variable {p : Policy}

theorem run_cons (m : Move) (past : List Move) : run p (m :: past) = (run p past).step m := rfl

theorem now_le_step (s : Clocked) (m : Move) : s.now ≤ (s.step m).now := by
  rcases m with _ | _ | _ | _ | span
  · exact Nat.le_refl _
  · exact Nat.le_refl _
  · exact Nat.le_refl _
  · exact Nat.le_refl _
  · exact Nat.le_add_right _ _

theorem wellFormed_step {s : Clocked} (h : WellFormed s.now s.cache) (m : Move) :
    WellFormed (s.step m).now (s.step m).cache := by
  rcases m with key | ⟨key, value, ttl⟩ | key | _ | span
  · exact h.get key s.now
  · exact h.set key value ttl
  · exact h.delete key
  · exact h.clear
  · exact h.later (Nat.le_add_right _ _)

theorem wellFormed_run : ∀ h : List Move, WellFormed (run p h).now (run p h).cache
  | [] => .new p
  | m :: past => wellFormed_step (wellFormed_run past) m

/-- The entries that a move leaves in a well-formed cache. -/
def entriesAfter (s : Clocked) : Move → List (String × Entry)
  | .get key => s.cache.pruned key s.now
  | .set key value ttl => s.cache.spared key s.now ++
      [(key, { value, createdAt := s.now, expiresAt := s.cache.expiry s.now ttl
               seq := s.cache.nextSeq })]
  | .delete key => s.cache.entries.filter (·.1 != key)
  | .clear => []
  | .wait _ => s.cache.entries

theorem entries_step {s : Clocked} (h : WellFormed s.now s.cache) (m : Move) :
    (s.step m).cache.entries = entriesAfter s m := by
  rcases m with key | ⟨key, value, ttl⟩ | key | _ | span
  · simp only [Clocked.step, h.get_snd, entriesAfter, holding]
  · simp only [Clocked.step, h.set_eq, entriesAfter, push, holding]
  · simp only [Clocked.step, delete, h.erase_eq, entriesAfter, holding]
  · rfl
  · rfl

theorem policy_step {s : Clocked} (h : WellFormed s.now s.cache) (m : Move) :
    (s.step m).cache.policy = s.cache.policy := by
  rcases m with key | ⟨key, value, ttl⟩ | key | _ | span
  · simp only [Clocked.step, h.get_snd, holding_policy]
  · simp only [Clocked.step, h.set_eq, push, holding_policy]
  · simp only [Clocked.step, delete, h.erase_eq, holding_policy]
  · rfl
  · rfl

theorem policy_run : ∀ h : List Move, (run p h).cache.policy = p
  | [] => rfl
  | m :: past => (policy_step (wellFormed_run past) m).trans (policy_run past)

variable (p)

/-- Whatever is asked of a cache, its order and its entries are each other's inverse, and each
number and each key is there once. Numbers are below the next one and grow with the time of
creation, and there are as many entries as the policy allows at most, or one if it allows none. -/
theorem order_mirrors_entries (h : List Move) :
    ((run p h).cache.order.Pairwise (·.1 < ·.1)
      ∧ ((run p h).cache.entries.map (·.1)).Nodup)
    ∧ (∀ s key, (run p h).cache.order.lookup s = some key ↔
      ∃ e, (run p h).cache.find? key = some e ∧ e.seq = s)
    ∧ (∀ key e, (run p h).cache.find? key = some e → e.seq < (run p h).cache.nextSeq)
    ∧ (∀ key e key' e', (run p h).cache.find? key = some e →
      (run p h).cache.find? key' = some e' → e.seq < e'.seq → e.createdAt ≤ e'.createdAt)
    ∧ (run p h).cache.size ≤ max 1 p.maxEntries := by
  have hw := wellFormed_run (p := p) h
  refine ⟨⟨hw.order_sorted, hw.keys⟩, fun s key => hw.order_lookup_iff, fun key e he => ?_,
    fun key e key' e' he he' hs => ?_, ?_⟩
  · exact hw.seq_lt _ (hw.find?_eq_some_iff.1 he)
  · exact hw.createdAt_le_of_seq_lt (hw.find?_eq_some_iff.1 he) (hw.find?_eq_some_iff.1 he') hs
  · have hs := hw.size_le
    rwa [policy_run] at hs

end SecretBroker.Cache
