import SecretBroker.Proofs.Broker.Enquiry

/-!
# New credentials are asked for once

A credential that is asked for twice exists twice. So the call that has one made goes out at most
once, and only for a consumer that was found; a secret that is handed out is the answer to it, names
its owner, and is the one in the cache (`create_postsOnce`).
-/

namespace SecretBroker

namespace Cache

variable (c : Cache)

theorem erase_entries_subset (key : String) : (c.erase key).entries ⊆ c.entries := by
  unfold erase
  split
  · exact List.Subset.refl _
  · exact List.filter_sublist.subset

theorem makeRoom_entries_subset (now : Instant) : (c.makeRoom now).entries ⊆ c.entries := by
  have hfold : ∀ (l : List (String × Entry)) (c : Cache),
      (l.foldl (fun c e => c.erase e.1) c).entries ⊆ c.entries := by
    intro l
    induction l with
    | nil => exact fun c => List.Subset.refl _
    | cons e l ih => exact fun c => List.Subset.trans (ih _) (c.erase_entries_subset e.1)
  have hpurge : (c.purge now).entries ⊆ c.entries := hfold _ c
  have hevict (c : Cache) : c.evict.entries ⊆ c.entries := by
    unfold evict
    split
    · exact List.Subset.refl _
    · exact List.filter_sublist.subset
  unfold makeRoom
  split
  · exact List.Subset.refl _
  · dsimp only
    split
    · exact hpurge
    · exact List.Subset.trans (hevict _) hpurge

theorem push_find? {key : String} (h : c.entries.lookup key = none) (value : ConsumerSecret)
    (now expiresAt : Instant) : (c.push key value now expiresAt).find? key
      = some { value, createdAt := now, expiresAt, seq := c.nextSeq } := by
  rw [find?, push, List.lookup_append, h, Option.none_or, List.lookup_cons_self]

/-- What is stored under a key is there afterwards, whatever the cache may hold. -/
theorem find?_set (key : String) (value : ConsumerSecret) (ttl : Option Int) (now : Instant) :
    ∃ e, (c.set key value ttl now).find? key = some e ∧ e.value = value := by
  have hroom : ((if (c.find? key).isSome then c.erase key else c.makeRoom now).entries.lookup key)
      = none := by
    rw [List.lookup_eq_none_iff]
    intro x hx
    rcases hf : c.find? key with _ | e
    · rw [hf] at hx
      exact List.lookup_eq_none_iff.1 hf x (c.makeRoom_entries_subset now hx)
    · rw [hf, Option.isSome_some, if_pos rfl, erase, hf] at hx
      have hne : (x.1 != key) = true := (List.mem_filter.1 hx).2
      rw [bne_iff_ne] at hne ⊢
      exact hne.symm
  exact ⟨_, push_find? _ hroom value now _, rfl⟩

end Cache

namespace Gateway

variable {g : Gateway} {id : String} {s s' : Session}

theorem Attempts.get_of_reading {op : Operation} {url : Except GatewayError Url} {message : String}
    {trips : List Trip} {x : Trip} (h : g.Attempts (g.reading op url message) trips)
    (hx : x ∈ trips) : x.request.method = .get := by
  obtain ⟨c, hc, hr⟩ := h.request hx
  rw [hr]
  exact (of_reading hc).2.1

/-- Nothing is posted to find a consumer's id but the realm of a control plane. -/
theorem resolve_posts {r : Option (Except GatewayError (Option String))}
    (h : g.resolve id s = (r, s')) :
    ∃ before, s.Made before s' ∧ ∀ x ∈ before, x.request.method = .post → ∃ p c,
      g.access.plane = .cloud p ∧ g.realmCreateCall p = .ok c
        ∧ x.request = c.request g.transport.agent := by
  rcases hp : g.access.plane with _ | p
  · simp only [resolve, hp] at h
    cases h
    exact ⟨[], .refl s, by simp⟩
  obtain ⟨t, hm, -⟩ := resolve_trail hp h
  refine ⟨t.trips, hm, fun x hx hpost => ?_⟩
  simp only [Trail.trips, List.mem_append] at hx
  rcases hx with ((hx | hx) | hx) | hx
  · rw [t.check_attempts.get_of_reading hx] at hpost
    cases hpost
  · obtain ⟨c, hc, hr⟩ := t.create_attempts.request hx
    exact ⟨p, c, rfl, hc, hr⟩
  · rw [t.lookUp_attempts.get_of_reading hx] at hpost
    cases hpost
  · rw [t.search_attempts.get_of_reading hx] at hpost
    cases hpost

end Gateway

namespace Broker

variable (b : Broker) (id : String) (fresh : NewCredential)

/-- The call that has a fresh credential made for a consumer. -/
def createCall (consumer : String) : Except GatewayError Call :=
  b.gateway.writing .secretCreate (b.credentialsUrl consumer) fresh.toJson
    ("Timeout creating secret for consumer: " ++ id) false

theorem of_createdIn {r : Response} {consumer : String} {secret : ConsumerSecret}
    (h : createdIn r consumer = .ok (some secret)) :
    r.isSuccess = true ∧ secret.owner.isSome = true := by
  unfold createdIn at h
  split at h
  · cases h
  split at h
  · rcases hd : r.decode Operation.secretCreate.name ConsumerSecret.reader with e | v
    · rw [hd] at h
      cases h
    · rw [hd] at h
      cases h
      exact ⟨‹_›, rfl⟩
  · cases h

/-- A fresh credential is asked for at most once, behind a resolution that found the consumer and a
breaker that let the call through; a secret that is returned answers the one call, names its owner
and is cached. -/
theorem create_postsOnce (s : State) :
    ∃ found mid before post,
      b.gateway.resolve id s.session = (found, mid) ∧ s.session.Made before mid
      ∧ (∀ x ∈ before, x.request.method = .post → ∃ p c, b.gateway.access.plane = .cloud p
        ∧ b.gateway.realmCreateCall p = .ok c ∧ x.request = c.request b.gateway.transport.agent)
      ∧ mid.Made post (b.create id fresh s).2.session
      ∧ post.length ≤ 1
      ∧ (post ≠ [] → ∃ consumer c, found = some (.ok (some consumer))
        ∧ b.createCall id fresh consumer = .ok c
        ∧ (∀ x ∈ post, x.request = c.request b.gateway.transport.agent)
        ∧ (mid.breakers.enter Operation.secretCreate.name mid.now).1 ≠ none)
      ∧ ∀ secret, (b.create id fresh s).1 = some (.ok (some secret)) →
        (∃ request status body delay, post = [⟨request, .answer status body delay⟩]
          ∧ 200 ≤ status ∧ status ≤ 299)
        ∧ secret.owner.isSome = true
        ∧ ∃ e, (b.create id fresh s).2.cache.find? id = some e ∧ e.value = secret := by
  rcases hx : b.create id fresh s with ⟨r, s'⟩
  obtain ⟨found, mid, post, hres, hm, hreached, hsecret⟩ :=
    resolved_cases (b.createCall id fresh) (fun consumer r => createdIn r consumer) hx
  obtain ⟨before, hbefore, hposts⟩ := Gateway.resolve_posts hres
  have hlen : post.length ≤ 1 := by
    by_cases hne : post = []
    · rw [hne]
      exact Nat.zero_le _
    obtain ⟨consumer, c, -, hc, hat, -⟩ := hreached hne
    have hle := hat.length_le
    rwa [Transport.allowance, (Gateway.of_writing hc).2.2.2, if_neg Bool.false_ne_true] at hle
  refine ⟨found, mid, before, post, hres, hbefore, hposts, hm, hlen, fun hne => ?_, ?_⟩
  · obtain ⟨consumer, c, hf, hc, hat, he⟩ := hreached hne
    refine ⟨consumer, c, hf, hc, fun x hx => ?_, (Gateway.of_writing hc).1 ▸ he⟩
    obtain ⟨c', hc', hx⟩ := hat.request hx
    cases hc'
    exact hx
  · intro secret hs
    obtain ⟨consumer, response, hb, hread, hcache⟩ := hsecret secret hs
    obtain ⟨hsuccess, howner⟩ := of_createdIn hread
    refine ⟨?_, howner, hcache ▸ s.cache.find?_set id secret none _⟩
    obtain ⟨c, a, -, hlast, ha⟩ := hb
    obtain ⟨body, delay, rfl⟩ := Transport.answer_of_outcome ha
    -- There is a last trip, and no more than one.
    obtain ⟨init, hpost⟩ := List.getLast?_eq_some_iff.1 hlast
    rw [hpost, List.length_append, List.length_singleton] at hlen
    have hinit : init = [] := List.eq_nil_of_length_eq_zero (by omega)
    rw [hinit, List.nil_append] at hpost
    simp only [Response.isSuccess, Bool.and_eq_true, decide_eq_true_eq] at hsuccess
    exact ⟨_, _, body, delay, hpost, hsuccess⟩

end Broker
end SecretBroker
