import SecretBroker.Proofs.Cache.Usage

/-!
# What a look-up may find

`lastSet` reads off a history what was last set under a key, when, and for how long, unless the key
was deleted or the cache cleared since. Every entry that the cache holds is that deposit
(`stores_lastSet`), whatever purges and evictions took place, so a look-up finds the last value
set or nothing, and only within its `lifespan` (`get_serves_lastSet`).
-/

namespace SecretBroker.Cache

variable (p : Policy)

/-- A secret as it was set under a key. -/
structure Deposit where
  value : ConsumerSecret
  ttl : Option Int
  instant : Instant
deriving DecidableEq

/-- What was last set under a key that was not deleted since, nor the cache cleared. -/
def lastSet (key : String) : List Move → Option Deposit
  | [] => none
  | .set k value ttl :: past =>
    if k = key then some ⟨value, ttl, (run p past).now⟩ else lastSet key past
  | .delete k :: past => if k = key then none else lastSet key past
  | .clear :: _ => none
  | .get _ :: past => lastSet key past
  | .wait _ :: past => lastSet key past

/-- The nanoseconds in 365 days. -/
def yearNanos : Nat := 365 * 24 * 60 * 60 * nanosPerSecond

/-- How many nanoseconds a secret lives that is set with a lifetime in seconds: so many, or those of
the policy for none and for zero, but at most a year. With a negative lifetime it never lives. -/
def lifespan (ttl : Option Int) : Option Nat :=
  match ttl with
  | none => some (min p.defaultTtl.toNanos yearNanos)
  | some t =>
    if t < 0 then none
    else if t = 0 then some (min p.defaultTtl.toNanos yearNanos)
    else some (min (t.toNat * nanosPerSecond) yearNanos)

variable {p}

theorem maxTtl_toNanos : maxTtl.toNanos = yearNanos := rfl

theorem clamped_toNanos (n : Nat) :
    (min (.ofSecs n) maxTtl).toNanos = min (n * nanosPerSecond) yearNanos := by
  have hy : yearNanos ≤ Duration.longest.toNanos := by decide
  rw [Duration.toNanos_min, Duration.toNanos_ofSecs, maxTtl_toNanos, Nat.min_assoc,
    Nat.min_eq_right hy]

/-- From the instant at which it is set, an entry is unexpired for its lifespan. -/
theorem lt_expiry_iff {c : Cache} {ttl : Option Int} {now t : Instant} (hle : now ≤ t) :
    t < c.expiry now ttl ↔ ∃ span, lifespan c.policy ttl = some span ∧ t < now + span := by
  have hd : (min c.policy.defaultTtl maxTtl).toNanos = min c.policy.defaultTtl.toNanos yearNanos := by
    rw [Duration.toNanos_min, maxTtl_toNanos]
  rcases ttl with _ | s
  · simp only [expiry, lifespan, hd, Option.some.injEq, exists_eq_left']
  · rcases Int.lt_trichotomy s 0 with hs | rfl | hs
    · have hp : ¬ 0 < s := by omega
      simp only [expiry, lifespan, hs, hp, ↓reduceIte, reduceCtorEq, false_and, exists_false,
        iff_false]
      exact Nat.not_lt.2 (Nat.le_trans (Nat.sub_le _ _) hle)
    · simp only [expiry, lifespan, hd, Int.lt_irrefl, ↓reduceIte, Option.some.injEq, exists_eq_left']
    · have hn : ¬ s < 0 := by omega
      have hz : s ≠ 0 := by omega
      have hc : s.natAbs = s.toNat := by omega
      simp only [expiry, lifespan, hs, hn, hz, hc, clamped_toNanos, ↓reduceIte, Option.some.injEq,
        exists_eq_left']

variable (p) in
/-- The entry holds the deposit, and is unexpired for its lifespan. -/
structure Stores (e : Entry) (d : Deposit) : Prop where
  value : e.value = d.value
  createdAt : e.createdAt = d.instant
  lt_expiresAt_iff : ∀ t, d.instant ≤ t →
    (t < e.expiresAt ↔ ∃ span, lifespan p d.ttl = some span ∧ t < d.instant + span)

/-- The entry under a key holds what was last set under it. -/
theorem stores_lastSet : ∀ (h : List Move), ∀ x ∈ (run p h).cache.entries,
    ∃ d, lastSet p x.1 h = some d ∧ Stores p x.2 d
  | [], x, hx => by cases hx
  | m :: past, x, hx => by
    have ih := stores_lastSet past
    have hw := wellFormed_run (p := p) past
    rw [run_cons, entries_step hw] at hx
    -- What a move leaves was there before, and the move is no set, delete or clear of its key.
    rcases m with key | ⟨key, value, ttl⟩ | key | _ | span
    · exact ih x (List.mem_filter.1 hx).1
    · rcases List.mem_append.1 hx with hx | hx
      · rw [lastSet, if_neg (hw.spared_key_ne x hx).symm]
        exact ih x ((spared_sublist _ key _).subset hx)
      · obtain rfl := List.mem_singleton.1 hx
        refine ⟨⟨value, ttl, (run p past).now⟩, by rw [lastSet, if_pos rfl], rfl, rfl, ?_⟩
        intro t ht
        rw [lt_expiry_iff ht, policy_run]
    · obtain ⟨hx, hk⟩ := List.mem_filter.1 hx
      rw [lastSet, if_neg (bne_iff_ne.1 hk).symm]
      exact ih x hx
    · cases hx
    · exact ih x hx

/-- A look-up finds the value last set under the key, which was not deleted since, nor the cache
cleared, and it finds it before the value's lifespan is over; what was set with a negative lifetime
has none. -/
theorem get_serves_lastSet {h : List Move} {key : String} {value : ConsumerSecret}
    (hv : ((run p h).cache.get key (run p h).now).1 = some value) :
    ∃ d, lastSet p key h = some d ∧ d.value = value
      ∧ ∃ span, lifespan p d.ttl = some span ∧ (run p h).now < d.instant + span := by
  have hw := wellFormed_run (p := p) h
  obtain ⟨e, he, rfl⟩ := hw.get_eq_some_iff.1 hv
  obtain ⟨he, hlt⟩ := (mem_live _).1 he
  obtain ⟨d, hd, hst⟩ := stores_lastSet h _ he
  have hle : d.instant ≤ (run p h).now := hst.createdAt ▸ hw.past _ he
  exact ⟨d, hd, hst.value.symm, (hst.lt_expiresAt_iff _ hle).1 hlt⟩

/-- Two seconds less a nanosecond after a secret replaced an older one. -/
def replaced : List Move := [
  .wait 1999999999,
  .set "alice" { id := "2", key := "k", secret := "new" } (some 2),
  .wait 5,
  .set "alice" { id := "1", key := "k", secret := "old" } none]

theorem get_serves_replaced :
    ((run {} replaced).cache.get "alice" (run {} replaced).now).1
      = some { id := "2", key := "k", secret := "new" }
    ∧ ∃ d, lastSet {} "alice" replaced = some d
      ∧ d.value = { id := "2", key := "k", secret := "new" }
      ∧ ∃ span, lifespan {} d.ttl = some span ∧ (run {} replaced).now < d.instant + span := by
  have hv : ((run {} replaced).cache.get "alice" (run {} replaced).now).1
      = some { id := "2", key := "k", secret := "new" } := by decide
  exact ⟨hv, get_serves_lastSet hv⟩

end SecretBroker.Cache
