import SecretBroker.Proofs.Broker.Usage

/-!
# What is kept, and what is not

Of what a question about a consumer comes to, only a secret is kept (`keeps_run`). When there is
none, be it that there is no such consumer, that the gateway failed at any stage or that the
question was abandoned, the cache is as it was, but that a look-up counts as a miss, and that it may
have found the consumer's own entry expired. So nobody loses a secret to the failure of another's
question.
-/

namespace SecretBroker

namespace Cache

/-- A look-up found nothing: it is counted, and the entry under the key, had there been one, was
expired and is gone. -/
def Missed (key : String) (now : Instant) (c c' : Cache) : Prop :=
  (c.find? key = none ∧ c' = { c with misses := c.misses + 1 })
  ∨ ∃ e, c.find? key = some e ∧ e.expiresAt ≤ now ∧ c' = { c with
      entries := c.entries.filter (·.1 != key)
      order := c.order.filter (·.2 != key)
      misses := c.misses + 1 }

variable {now : Instant} {c c' : Cache} {key : String}

theorem WellFormed.missed (hw : WellFormed now c) {t : Instant} (h : (c.get key t).1 = none) :
    Missed key t c (c.get key t).2 := by
  rcases hf : c.find? key with _ | e
  · rw [get_of_none hf]
    exact .inl ⟨hf, rfl⟩
  · rcases Nat.lt_or_ge t e.expiresAt with he | he
    · rw [get_of_live hf he] at h
      cases h
    · rw [get_of_expired hf he, hw.erase_eq]
      have ho : (c.entries.filter (·.1 != key)).map place = c.order.filter (·.2 != key) := by
        rw [hw.order_eq, List.filter_map]
        rfl
      exact .inr ⟨e, hf, he, by rw [← ho]; rfl⟩

theorem Missed.find?_eq (h : Missed key now c c') {other : String} (hne : other ≠ key) :
    c'.find? other = c.find? other := by
  rcases h with ⟨-, rfl⟩ | ⟨e, -, -, rfl⟩
  · rfl
  · exact lookup_filter_ne hne c.entries

end Cache

namespace Broker

/-- From `s`, a question about a consumer keeps a secret that it returns, and nothing else. -/
structure Keeps (b : Broker) (s : State) (id : String) : Prop where
  create_none : ∀ fresh, secret? (b.create id fresh s).1 = none →
    (b.create id fresh s).2.cache = s.cache
  get_none : secret? (b.get id s).1 = none →
    s.cache.Missed id s.session.now (b.get id s).2.cache
      ∧ ∀ other ≠ id, (b.get id s).2.cache.find? other = s.cache.find? other
  create_some : ∀ fresh secret, (b.create id fresh s).1 = some (.ok (some secret)) →
    ∃ e, (b.create id fresh s).2.cache.find? id = some e ∧ e.value = secret
  get_some : ∀ secret, (s.cache.get id s.session.now).1 = none →
    (b.get id s).1 = some (.ok (some secret)) →
    ∃ e, (b.get id s).2.cache.find? id = some e ∧ e.value = secret

variable {r : Result}

theorem learnt_some {secret : ConsumerSecret} (h : r = some (.ok (some secret))) (id : String)
    (now : Instant) (c : Cache) :
    ∃ e, (learnt id now c r).find? id = some e ∧ e.value = secret := by
  subst h
  exact c.find?_set id secret none now

theorem miss_of_secret?_eq_none {b : Broker} {s : State} {id : String}
    (h : secret? (b.get id s).1 = none) : (s.cache.get id s.session.now).1 = none := by
  rcases hc : (s.cache.get id s.session.now).1 with _ | secret
  · rfl
  · rw [get_of_hit hc] at h
    cases h

/-- Whatever has been asked of a broker before, of a question about a consumer it keeps the secret
that it returns, and nothing else. -/
theorem keeps_run (b : Broker) (settings : Settings) (h : List Move) (id : String) :
    Keeps b (b.run settings h) id where
  create_none := by
    intro fresh hn
    rw [create_cache, learnt_of_none hn]
  get_none := by
    intro hn
    have hc := miss_of_secret?_eq_none hn
    have hm := (b.wellFormed_run settings h).missed hc
    rw [get_of_miss hc] at hn ⊢
    rw [fetch_cache, learnt_of_none hn]
    exact ⟨hm, fun other hne => hm.find?_eq hne⟩
  create_some := by
    intro fresh secret hs
    rw [create_cache]
    exact learnt_some hs _ _ _
  get_some := by
    intro secret hc hs
    rw [get_of_miss hc] at hs ⊢
    rw [fetch_cache]
    exact learnt_some hs _ _ _

end Broker
end SecretBroker
