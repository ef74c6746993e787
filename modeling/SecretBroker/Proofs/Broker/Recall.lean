import SecretBroker.Proofs.Broker.Keeping
import SecretBroker.Proofs.Cache.Residence

/-!
# How long a secret is remembered

A secret that was stored for a consumer answers every question about the consumer until its lifetime
is over, whatever the breakers and the gateway are like, unless it was cleared or replaced or as
many other secrets were stored since as the cache has places; from then on it answers none
(`recalled_until_ttl`). The lifetime is that of the settings, which the cache never cuts short if
they pass their check (`defaultTtl_le_of_check`).
-/

namespace SecretBroker

theorem refuseIf_eq_ok {isFault : Bool} {fault : SettingsFault} {u : Unit}
    (h : refuseIf isFault fault = .ok u) : isFault = false := by
  unfold refuseIf at h
  split at h
  · cases h
  · rwa [Bool.not_eq_true] at *

theorem Settings.defaultTtl_le_of_check {s : Settings} (h : s.check = .ok ()) :
    s.cache.defaultTtl.toNanos ≤ Cache.yearNanos := by
  obtain ⟨-, -, h⟩ := ok_of_bind h
  obtain ⟨-, -, h⟩ := ok_of_bind h
  obtain ⟨-, -, h⟩ := ok_of_bind h
  obtain ⟨_, ht, -⟩ := ok_of_bind h
  exact Nat.le_of_not_lt (of_decide_eq_false (refuseIf_eq_ok ht))

namespace Cache

variable {p : Policy} {h : List Move} {key : String} {d : Deposit} {span : Nat}

/-- Until its lifespan is over, what was last set under a key is the key's entry. -/
theorem find?_of_lastSet (hd : lastSet p key h = some d) (hs : lifespan p d.ttl = some span)
    (ht : (run p h).now < d.instant + span) (hn : (setSince key h).card < p.maxEntries) :
    ∃ e, (run p h).cache.find? key = some e ∧ (run p h).now < e.expiresAt ∧ e.value = d.value := by
  obtain ⟨older, e, newer, hl, -⟩ := resident_of_lastSet hd hs ht hn
  have he : (key, e) ∈ (run p h).cache.entries := by simp [hl]
  exact ⟨e, (wellFormed_run h).find?_eq_some_iff.2 he, lt_expiresAt_of_lastSet hd hs ht he rfl⟩

/-- From then on it is not found, nor is anything else. -/
theorem get_eq_none_of_lastSet (hd : ∀ d', lastSet p key h = some d' → d' = d)
    (hs : lifespan p d.ttl = some span) (ht : d.instant + span ≤ (run p h).now) :
    ((run p h).cache.get key (run p h).now).1 = none := by
  have hw := wellFormed_run (p := p) h
  rw [Option.eq_none_iff_forall_ne_some]
  intro value hv
  obtain ⟨e, he, -⟩ := hw.get_eq_some_iff.1 hv
  obtain ⟨he, hlt⟩ := (mem_live _).1 he
  obtain ⟨d', hd', hst⟩ := stores_lastSet h _ he
  obtain rfl := hd d' hd'
  obtain ⟨span', hs', hlt⟩ := (hst.lt_expiresAt_iff _ (hst.createdAt ▸ hw.past _ he)).1 hlt
  obtain rfl := Option.some.inj (hs.symm.trans hs')
  exact Nat.not_lt.2 ht hlt

end Cache

namespace Broker

/-- The move does not clear the consumer's secret, and is no creation of a new one for it. -/
def Spares (b : Broker) (id : String) (s : State) : Move → Prop
  | .create other fresh => other = id → secret? (b.create other fresh s).1 = none
  | .clear none => False
  | .clear (some other) => other ≠ id
  | _ => True

section
variable (b : Broker) (settings : Settings)

/-- No move since `past` clears the consumer's secret or creates a new one for it. -/
def SparedSince (id : String) (past : List Move) : List Move → Prop
  | [] => True
  | m :: later => Spares b id (b.run settings (later ++ past)) m ∧ SparedSince id past later

/-- The consumers for whom secrets were stored since `past`. -/
def storedSince (past : List Move) : List Move → Finset String
  | [] => ∅
  | m :: later =>
    match b.stored (b.run settings (later ++ past)) m with
    | some (id, _) => insert id (storedSince past later)
    | none => storedSince past later

end

variable {b : Broker} {settings : Settings} {p : Cache.Policy} {h : List Cache.Move} {s : State}
  {m : Move} {id : String} {secret : ConsumerSecret}

theorem lastSet_of_stored (hs : Cache.run p h = s.clocked)
    (hm : b.stored s m = some (id, secret)) :
    Cache.lastSet p id (b.cacheMoves s m ++ h) = some ⟨secret, none, (b.step s m).session.now⟩
      ∧ Cache.setSince id (b.cacheMoves s m ++ h) = ∅ := by
  simp only [cacheMoves, hm, List.cons_append, Cache.lastSet, Cache.setSince, run_leadUp hs,
    ↓reduceIte, and_self]

theorem lastSet_leadUp (b : Broker) (s : State) (m : Move) (id : String) :
    Cache.lastSet p id (b.leadUp s m ++ h) = Cache.lastSet p id h
      ∨ Cache.lastSet p id (b.leadUp s m ++ h) = none ∧ ¬ Spares b id s m := by
  rcases m with _ | _ | _ | (_ | other) | _ | _ | _ | _
  · exact .inl rfl
  · exact .inl rfl
  · exact .inl rfl
  · exact .inr ⟨rfl, fun h => h⟩
  · by_cases he : other = id
    · exact .inr ⟨if_pos he, fun h => h he⟩
    · exact .inl (if_neg he)
  · exact .inl rfl
  · exact .inl rfl
  · exact .inl rfl
  · exact .inl rfl

theorem setSince_leadUp (b : Broker) (s : State) (m : Move) (id : String) :
    Cache.setSince id (b.leadUp s m ++ h) = Cache.setSince id h := by
  rcases m with _ | _ | _ | (_ | other) | _ | _ | _ | _
  all_goals rfl

/-- What was last set for a consumer stays so when a move stores nothing for it, unless the move
clears it. -/
theorem lastSet_of_not_stored (hm : ∀ secret, b.stored s m ≠ some (id, secret)) :
    Cache.lastSet p id (b.cacheMoves s m ++ h) = Cache.lastSet p id h
      ∨ Cache.lastSet p id (b.cacheMoves s m ++ h) = none ∧ ¬ Spares b id s m := by
  have hl := lastSet_leadUp (p := p) (h := h) b s m id
  rw [cacheMoves]
  rcases hst : b.stored s m with _ | ⟨other, secret⟩
  · exact hl
  · have he : other ≠ id := fun he => hm secret (he ▸ hst)
    simpa only [List.cons_append, Cache.lastSet, if_neg he] using hl

theorem setSince_of_not_stored (hm : ∀ secret, b.stored s m ≠ some (id, secret)) :
    Cache.setSince id (b.cacheMoves s m ++ h) = match b.stored s m with
      | some (other, _) => insert other (Cache.setSince id h)
      | none => Cache.setSince id h := by
  have hl := setSince_leadUp (h := h) b s m id
  rw [cacheMoves]
  rcases hst : b.stored s m with _ | ⟨other, secret⟩
  · exact hl
  · have he : other ≠ id := fun he => hm secret (he ▸ hst)
    simp only [List.cons_append, Cache.setSince, if_neg he, hl]

section
variable {past : List Move}

/-- The secret was stored for the consumer by the last move of `past`. -/
def StoredBy (b : Broker) (settings : Settings) (id : String) (secret : ConsumerSecret) :
    List Move → Prop
  | [] => False
  | m :: past => b.stored (b.run settings past) m = some (id, secret)

theorem lastSet_of_storedBy (hp : StoredBy b settings id secret past) :
    Cache.lastSet settings.cache id (b.cacheHistory settings past)
        = some ⟨secret, none, (b.run settings past).session.now⟩
      ∧ Cache.setSince id (b.cacheHistory settings past) = ∅ := by
  rcases past with _ | ⟨m, past⟩
  · exact hp.elim
  · exact lastSet_of_stored (b.run_cacheHistory settings past) hp

/-- While nothing is stored for the consumer again, what was last set for it is that secret or
cleared. -/
theorem lastSet_of_not_mem (hp : StoredBy b settings id secret past) {d : Cache.Deposit} :
    ∀ {later : List Move}, id ∉ b.storedSince settings past later →
    Cache.lastSet settings.cache id (b.cacheHistory settings (later ++ past)) = some d →
    d = ⟨secret, none, (b.run settings past).session.now⟩
  | [], _, hd => Option.some.inj (hd.symm.trans (lastSet_of_storedBy hp).1)
  | m :: later, hn, hd => by
    have hm : ∀ secret, b.stored (b.run settings (later ++ past)) m ≠ some (id, secret) := by
      intro secret hst
      rw [storedSince, hst] at hn
      exact hn (Finset.mem_insert_self _ _)
    have hn' : id ∉ b.storedSince settings past later := by
      rw [storedSince] at hn
      split at hn
      · exact fun h => hn (Finset.mem_insert_of_mem h)
      · exact hn
    rcases lastSet_of_not_stored (p := settings.cache)
      (h := b.cacheHistory settings (later ++ past)) hm with hl | ⟨hl, -⟩
    · exact lastSet_of_not_mem hp hn' (hl ▸ hd)
    · cases hl.symm.trans hd

theorem lifespan_of_check (hs : settings.check = .ok ()) :
    Cache.lifespan settings.cache none = some settings.cache.defaultTtl.toNanos := by
  rw [Cache.lifespan, Nat.min_eq_left (Settings.defaultTtl_le_of_check hs)]

theorem storedSince_subset (b : Broker) (settings : Settings) (past : List Move) (m : Move)
    (later : List Move) :
    b.storedSince settings past later ⊆ b.storedSince settings past (m :: later) := by
  rw [storedSince]
  split
  · exact Finset.subset_insert _ _
  · exact Finset.Subset.refl _

/-- The consumer's entry is the secret, and lives. -/
def Remembers (s : State) (id : String) (secret : ConsumerSecret) : Prop :=
  ∃ e, s.cache.find? id = some e ∧ s.session.now < e.expiresAt ∧ e.value = secret

theorem Remembers.get_eq (h : Remembers s id secret) :
    s.cache.get id s.session.now = (some secret, { s.cache with hits := s.cache.hits + 1 }) := by
  obtain ⟨e, hf, he, rfl⟩ := h
  exact Cache.get_of_live hf he

/-- A move that spares a consumer stores nothing for it while its secret is remembered: the move may
be a question about it, but the cache answers. -/
theorem Remembers.not_stored (h : Remembers s id secret) (hm : Spares b id s m)
    (secret' : ConsumerSecret) : b.stored s m ≠ some (id, secret') := by
  intro hst
  rcases m with other | ⟨other, fresh⟩ | _ | _ | _ | _ | _ | _
  · simp only [stored] at hst
    by_cases he : other = id
    · subst he
      rw [h.get_eq] at hst
      cases hst
    · split at hst
      · cases hst
      · obtain ⟨_, -, hx⟩ := Option.map_eq_some_iff.1 hst
        exact he (congrArg Prod.fst hx)
  · obtain ⟨_, hr, hx⟩ := Option.map_eq_some_iff.1 hst
    rw [hm (congrArg Prod.fst hx)] at hr
    cases hr
  · cases hst
  · cases hst
  · cases hst
  · cases hst
  · cases hst
  · cases hst

/-- The secret is what was last set for the consumer, and those for whom one was set since are among
`others`. -/
def Latest (b : Broker) (settings : Settings) (id : String) (d : Cache.Deposit)
    (others : Finset String) (h : List Move) : Prop :=
  Cache.lastSet settings.cache id (b.cacheHistory settings h) = some d
    ∧ Cache.setSince id (b.cacheHistory settings h) ⊆ others

theorem Latest.remembers {others : Finset String} {h : List Move} {c : Instant}
    (hl : Latest b settings id ⟨secret, none, c⟩ others h) (hs : settings.check = .ok ())
    (hn : others.card < settings.cache.maxEntries)
    (ht : (b.run settings h).session.now < c + settings.cache.defaultTtl.toNanos) :
    Remembers (b.run settings h) id secret := by
  have hrun := b.run_cacheHistory settings h
  have hnow := congrArg Cache.Clocked.now hrun
  obtain ⟨e, hf, he, hv⟩ := Cache.find?_of_lastSet hl.1 (lifespan_of_check hs) (hnow ▸ ht)
    (Nat.lt_of_le_of_lt (Finset.card_le_card hl.2) hn)
  rw [hrun] at hf he
  exact ⟨e, hf, he, hv⟩

/-- The induction is on the moves since: as the secret was remembered before the last of them, that
move stored nothing for the consumer. -/
theorem latest_of_spared (hs : settings.check = .ok ()) (hp : StoredBy b settings id secret past) :
    ∀ {later : List Move}, SparedSince b settings id past later →
    ((b.storedSince settings past later).erase id).card < settings.cache.maxEntries →
    (b.run settings (later ++ past)).session.now
      < (b.run settings past).session.now + settings.cache.defaultTtl.toNanos →
    Latest b settings id ⟨secret, none, (b.run settings past).session.now⟩
      ((b.storedSince settings past later).erase id) (later ++ past)
  | [], _, _, _ => ⟨(lastSet_of_storedBy hp).1, (lastSet_of_storedBy hp).2 ▸ Finset.empty_subset _⟩
  | m :: later, hd, hn, ht => by
    have hsub := Finset.erase_subset_erase id (b.storedSince_subset settings past m later)
    have hn' := Nat.lt_of_le_of_lt (Finset.card_le_card hsub) hn
    have ht' := Nat.lt_of_le_of_lt (b.now_le_step (b.run settings (later ++ past)) m) ht
    have ih := latest_of_spared hs hp hd.2 hn' ht'
    have hm := (ih.remembers hs hn' ht').not_stored hd.1
    refine ⟨?_, ?_⟩
    · rcases lastSet_of_not_stored (p := settings.cache)
        (h := b.cacheHistory settings (later ++ past)) hm with hl | ⟨-, hc⟩
      · exact hl.trans ih.1
      · exact absurd hd.1 hc
    · refine (setSince_of_not_stored hm).trans_subset ?_
      rcases hst : b.stored (b.run settings (later ++ past)) m with _ | ⟨other, secret'⟩
      · exact ih.2.trans hsub
      · have hne : other ≠ id := fun he => hm secret' (he ▸ hst)
        simp only [storedSince, hst, Finset.erase_insert_of_ne hne]
        exact Finset.insert_subset_insert _ ih.2

/-- The cache answers a question about the consumer, in whatever session: nothing is sent, no time
passes, and no breaker has a part in it. -/
def Answers (b : Broker) (s : State) (id : String) (secret : ConsumerSecret) : Prop :=
  ∀ session : Session, session.now = s.session.now → b.get id { s with session }
    = (some (.ok (some secret)),
      { cache := { s.cache with hits := s.cache.hits + 1 }, session })

theorem Remembers.answers (h : Remembers s id secret) : Answers b s id secret := by
  intro session hnow
  have hget := h.get_eq
  rw [get_apply, hnow, hget]

/-- The cache has no answer to a question about the consumer, so it is put to the gateway. -/
def Misses (b : Broker) (s : State) (id : String) : Prop :=
  ∃ cache, s.cache.Missed id s.session.now cache ∧ b.get id s = b.fetch id { s with cache }

/-- What was stored for a consumer answers every question about it before its lifetime is over:
unless since then it was cleared, alone or with all, or a new one was created for the consumer, or
as many others were stored as the cache has places. From the end of its lifetime on, unless one was
stored for the consumer again, every question is a miss. -/
theorem recalled_until_ttl (hs : settings.check = .ok ()) (hp : StoredBy b settings id secret past)
    (later : List Move) :
    (SparedSince b settings id past later →
      ((b.storedSince settings past later).erase id).card < settings.cache.maxEntries →
      (b.run settings (later ++ past)).session.now
        < (b.run settings past).session.now + settings.cache.defaultTtl.toNanos →
      Answers b (b.run settings (later ++ past)) id secret)
    ∧ (id ∉ b.storedSince settings past later →
      (b.run settings past).session.now + settings.cache.defaultTtl.toNanos
        ≤ (b.run settings (later ++ past)).session.now →
      Misses b (b.run settings (later ++ past)) id) := by
  constructor
  · intro hd hn ht
    exact ((latest_of_spared hs hp hd hn ht).remembers hs hn ht).answers
  · intro hn ht
    have hrun := b.run_cacheHistory settings (later ++ past)
    have hnow := congrArg Cache.Clocked.now hrun
    have hnone := Cache.get_eq_none_of_lastSet (p := settings.cache)
      (fun d' hd' => lastSet_of_not_mem hp hn hd') (lifespan_of_check hs) (hnow.symm ▸ ht)
    rw [hrun] at hnone
    exact ⟨_, (b.wellFormed_run settings (later ++ past)).missed hnone, get_of_miss hnone⟩

end

/-- Settings for a gateway on the machine itself, whose secrets live for two seconds. -/
def briefly : Settings where
  gateway := { adminUrl := some "http://[::1]:8001/kong" }
  cache := { defaultTtl := .ofSecs 2, maxEntries := 2 }

/-- A broker in front of it. -/
def ofLocalHost : Broker where
  gateway := {
    access := { base := "http://[::1]:8001/kong", token := none, plane := .admin }
    transport := {} }

/-- The gateway makes a credential for one consumer, and answers no more. -/
def created : List Move := [
  .create "alice" { key := "k", secret := "s" },
  .turn [fun _ => .answer 201 "[\"1\",\"k\",\"s\"]" .zero] (fun _ => .lost) none]

theorem recalled_briefly :
    briefly.check = .ok ()
    ∧ StoredBy ofLocalHost briefly "alice"
      { id := "1", key := "k", secret := "s", owner := some "alice" } created
    ∧ Answers ofLocalHost (ofLocalHost.run briefly ([.wait 1800000000, .get "bob"] ++ created))
      "alice" { id := "1", key := "k", secret := "s", owner := some "alice" }
    ∧ Misses ofLocalHost (ofLocalHost.run briefly ([.wait 2000000000] ++ created)) "alice" := by
  have hs : briefly.check = .ok () := by decide +kernel
  have hst : ofLocalHost.stored (ofLocalHost.run briefly created.tail)
      (.create "alice" { key := "k", secret := "s" })
      = some ("alice", { id := "1", key := "k", secret := "s", owner := some "alice" }) := by
    decide +kernel
  have hp : StoredBy ofLocalHost briefly "alice"
      { id := "1", key := "k", secret := "s", owner := some "alice" } created := hst
  refine ⟨hs, hp, ?_, ?_⟩
  · exact (recalled_until_ttl hs hp _).1 ⟨trivial, trivial, trivial⟩ (by decide +kernel)
      (by decide +kernel)
  · exact (recalled_until_ttl hs hp _).2 (by decide +kernel) (by decide +kernel)

end Broker
end SecretBroker
