import Mathlib.Data.Finset.Card
import Mathlib.Data.List.Dedup
import SecretBroker.Proofs.Cache.Freshness

/-!
# How long an entry stays

A full cache gives up the entry created first. An entry that lives comes first only when all those
created before it are gone, and the ones created after it are under keys that were set since
(`Resident`). So as long as fewer other keys than the cache has places were set since, the entry is
found (`get_of_lastSet`), whatever was read, overwritten, deleted and expired meanwhile.
-/

namespace SecretBroker.Cache

/-- The other keys that were set since the key was. -/
def setSince (key : String) : List Move → Finset String
  | [] => ∅
  | .set k _ _ :: past => if k = key then ∅ else insert k (setSince key past)
  | .get _ :: past => setSince key past
  | .delete _ :: past => setSince key past
  | .clear :: past => setSince key past
  | .wait _ :: past => setSince key past

/-- The key has an entry, and those created after it are under keys from `others`. -/
def Resident (key : String) (others : Finset String) (l : List (String × Entry)) : Prop :=
  ∃ older e newer, l = older ++ (key, e) :: newer ∧ ∀ x ∈ newer, x.1 ∈ others

namespace Resident

variable {key : String} {others : Finset String} {l : List (String × Entry)}

theorem filter (h : Resident key others l) {f : String × Entry → Bool}
    (hf : ∀ x ∈ l, x.1 = key → f x = true) : Resident key others (l.filter f) := by
  obtain ⟨older, e, newer, rfl, hn⟩ := h
  refine ⟨older.filter f, e, newer.filter f, ?_, fun x hx => hn x (List.mem_filter.1 hx).1⟩
  rw [List.filter_append, List.filter_cons_of_pos (hf _ (by simp) rfl)]

theorem append (h : Resident key others l) (x : String × Entry) :
    Resident key (insert x.1 others) (l ++ [x]) := by
  obtain ⟨older, e, newer, rfl, hn⟩ := h
  refine ⟨older, e, newer ++ [x], by simp, fun y hy => ?_⟩
  rcases List.mem_append.1 hy with hy | hy
  · exact Finset.mem_insert_of_mem (hn y hy)
  · rw [List.mem_singleton.1 hy]
    exact Finset.mem_insert_self _ _

/-- Were the key's entry the first, the others and one more key would fill the list. -/
theorem tail (h : Resident key others l) (hl : (l.map (·.1)).Nodup) {k : String}
    (hk : ∀ x ∈ l, x.1 ≠ k) (hc : (insert k others).card < l.length) :
    Resident key others l.tail := by
  obtain ⟨older, e, newer, rfl, hn⟩ := h
  rcases older with _ | ⟨x, older⟩
  · have hsub : insert k (newer.map (·.1)).toFinset ⊆ insert k others := by
      refine Finset.insert_subset_insert k fun y hy => ?_
      obtain ⟨x, hx, rfl⟩ := List.mem_map.1 (List.mem_toFinset.1 hy)
      exact hn x hx
    have hnk : k ∉ (newer.map (·.1)).toFinset := by
      rw [List.mem_toFinset, List.mem_map]
      rintro ⟨x, hx, he⟩
      exact hk x (List.mem_cons_of_mem _ hx) he
    have hcard := Finset.card_le_card hsub
    rw [List.nil_append, List.map_cons, List.nodup_cons] at hl
    rw [Finset.card_insert_of_notMem hnk, List.toFinset_card_of_nodup hl.2, List.length_map]
      at hcard
    rw [List.nil_append, List.length_cons] at hc
    omega
  · exact ⟨older, e, newer, rfl, hn⟩

end Resident

variable {p : Policy}

/-- What was last set under a key has not expired before its lifespan is over. -/
theorem lt_expiresAt_of_lastSet {h : List Move} {key : String} {d : Deposit} {span : Nat}
    (hd : lastSet p key h = some d) (hs : lifespan p d.ttl = some span)
    (ht : (run p h).now < d.instant + span) {x : String × Entry}
    (hx : x ∈ (run p h).cache.entries) (hk : x.1 = key) :
    (run p h).now < x.2.expiresAt ∧ x.2.value = d.value := by
  obtain ⟨d', hd', hst⟩ := stores_lastSet h x hx
  obtain rfl : d' = d := Option.some.inj (hd'.symm.trans (hk ▸ hd))
  have hle : d'.instant ≤ (run p h).now := hst.createdAt ▸ (wellFormed_run h).past x hx
  exact ⟨(hst.lt_expiresAt_iff _ hle).2 ⟨span, hs, ht⟩, hst.value⟩

/-- A set of another key spares an entry that lives, as long as there are fewer such keys than
places. -/
theorem resident_spared {h : List Move} {key k : String} (hne : k ≠ key)
    (hr : Resident key (setSince key h) (run p h).cache.entries)
    (hlive : ∀ x ∈ (run p h).cache.entries, x.1 = key → (run p h).now < x.2.expiresAt)
    (hn : (insert k (setSince key h)).card < p.maxEntries) :
    Resident key (setSince key h) ((run p h).cache.spared k (run p h).now) := by
  have hw := wellFormed_run (p := p) h
  have hl : Resident key (setSince key h) ((run p h).cache.live (run p h).now) :=
    hr.filter fun x hx hk => by simpa [Entry.isExpired] using hlive x hx hk
  unfold spared
  split_ifs with hf hroom hpurged
  · exact hr.filter fun x _ hk => by simpa [hk] using hne.symm
  · exact hr
  · exact hl
  · -- The cache is full of entries that live, so the first of them is not the key's.
    rw [policy_run] at hpurged
    refine hl.tail (hw.holding (live_sublist _ _)).keys (fun x hx hk => ?_)
      (Nat.lt_of_lt_of_le hn (Nat.le_of_not_lt hpurged))
    subst hk
    simp [hw.find?_eq_some_iff.2 ((mem_live _).1 hx).1] at hf

theorem resident_of_lastSet {key : String} : ∀ {h : List Move} {d : Deposit} {span : Nat},
    lastSet p key h = some d → lifespan p d.ttl = some span → (run p h).now < d.instant + span →
    (setSince key h).card < p.maxEntries →
    Resident key (setSince key h) (run p h).cache.entries
  | [], _, _, hd, _, _, _ => by cases hd
  | m :: past, d, span, hd, hs, ht, hn => by
    -- The lifespan was not over before the move, and no more keys had been set.
    have ht' := Nat.lt_of_le_of_lt (now_le_step (run p past) m) ht
    rw [run_cons, entries_step (wellFormed_run past)]
    rcases m with k | ⟨k, value, ttl⟩ | k | _ | span'
    · have hr := resident_of_lastSet (h := past) hd hs ht' hn
      refine hr.filter fun x hx hk => ?_
      simp [Entry.isExpired, (lt_expiresAt_of_lastSet (h := past) hd hs ht' hx hk).1]
    · by_cases hk : k = key
      · subst hk
        exact ⟨_, _, [], rfl, by simp⟩
      · rw [lastSet, if_neg hk] at hd
        rw [setSince, if_neg hk] at hn ⊢
        have hn' := Nat.lt_of_le_of_lt (Finset.card_le_card (Finset.subset_insert _ _)) hn
        have hr := resident_of_lastSet hd hs ht' hn'
        exact (resident_spared hk hr
          (fun x hx hk => (lt_expiresAt_of_lastSet hd hs ht' hx hk).1) hn).append _
    · by_cases hk : k = key
      · simp [lastSet, hk] at hd
      · rw [lastSet, if_neg hk] at hd
        have hr := resident_of_lastSet hd hs ht' hn
        exact hr.filter fun x _ hx => by simpa [hx] using Ne.symm hk
    · cases hd
    · exact resident_of_lastSet (h := past) hd hs ht' hn

/-- What was last set under a key, which was not deleted since, nor the cache cleared, is found
until its lifespan is over, unless as many other keys were set since as the cache has places. -/
theorem get_of_lastSet {h : List Move} {key : String} {d : Deposit} {span : Nat}
    (hd : lastSet p key h = some d) (hs : lifespan p d.ttl = some span)
    (ht : (run p h).now < d.instant + span) (hn : (setSince key h).card < p.maxEntries) :
    ((run p h).cache.get key (run p h).now).1 = some d.value := by
  obtain ⟨older, e, newer, hl, -⟩ := resident_of_lastSet hd hs ht hn
  have he : (key, e) ∈ (run p h).cache.entries := by simp [hl]
  obtain ⟨hlive, hval⟩ := lt_expiresAt_of_lastSet hd hs ht he rfl
  exact (wellFormed_run h).get_eq_some_iff.2 ⟨e, (mem_live _).2 ⟨he, hlive⟩, hval⟩

/-- With two places, another key is set, deleted and set again, for which an older one goes. -/
def crowded : List Move := [
  .wait 1999999999,
  .set "carol" { id := "4", key := "k", secret := "c" } none,
  .get "bob",
  .delete "carol",
  .set "carol" { id := "3", key := "k", secret := "c" } none,
  .set "alice" { id := "2", key := "k", secret := "a" } (some 2),
  .set "bob" { id := "1", key := "k", secret := "b" } none]

theorem get_of_crowded :
    (lastSet { maxEntries := 2 } "alice" crowded
        = some ⟨{ id := "2", key := "k", secret := "a" }, some 2, 0⟩
      ∧ lifespan { maxEntries := 2 } (some 2) = some 2000000000
      ∧ (run { maxEntries := 2 } crowded).now < 0 + 2000000000
      ∧ (setSince "alice" crowded).card < 2)
    ∧ ((run { maxEntries := 2 } crowded).cache.get "alice"
        (run { maxEntries := 2 } crowded).now).1
      = some { id := "2", key := "k", secret := "a" } := by
  have hd : lastSet { maxEntries := 2 } "alice" crowded
      = some ⟨{ id := "2", key := "k", secret := "a" }, some 2, 0⟩ := by decide
  have hs : lifespan { maxEntries := 2 } (some 2) = some 2000000000 := by decide
  have ht : (run { maxEntries := 2 } crowded).now < 0 + 2000000000 := by decide
  have hn : (setSince "alice" crowded).card < 2 := by decide
  exact ⟨⟨hd, hs, ht, hn⟩, get_of_lastSet hd hs ht hn⟩

/-- With one place, one other key is enough. -/
example : ((run { maxEntries := 1 }
    [.set "bob" { id := "2", key := "k", secret := "b" } none,
      .set "alice" { id := "1", key := "k", secret := "a" } none]).cache.get "alice" 0).1 = none := by
  decide

end SecretBroker.Cache
