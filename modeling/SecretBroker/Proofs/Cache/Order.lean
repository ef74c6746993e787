import Mathlib.Data.List.Nodup
import Mathlib.Tactic.SplitIfs
import SecretBroker.Cache
import SecretBroker.Proofs.Lookup

/-!
# Entries and their order

A cache keeps its entries apart from the order of their creation, and every operation has to change
both. They stay in step (`WellFormed`): whatever takes entries out leaves the cache `holding` a part
of them, in the same order, and an insert puts the new entry last in both. So each operation is
described by the entries it leaves (`erase_eq`, `purge_eq`, `evict_eq`, `set_eq`), and one lemma
covers all the ways in which an entry can go (`WellFormed.holding`).
-/

namespace SecretBroker.Cache

/-- Where an entry stands in the order. -/
def place (x : String × Entry) : Nat × String := (x.2.seq, x.1)

/-- The cache with these entries, created in this order. -/
def holding (c : Cache) (l : List (String × Entry)) : Cache :=
  { c with entries := l, order := l.map place }

/-- The entries that are not expired. -/
def live (c : Cache) (now : Instant) : List (String × Entry) :=
  c.entries.filter fun x => !x.2.isExpired now

/-- The entries without that of `key`, if it is expired. -/
def pruned (c : Cache) (key : String) (now : Instant) : List (String × Entry) :=
  c.entries.filter fun x => x.1 != key || !x.2.isExpired now

/-- The entries beside which a set of `key` puts the new one. -/
def spared (c : Cache) (key : String) (now : Instant) : List (String × Entry) :=
  if (c.find? key).isSome then c.entries.filter (·.1 != key)
  else if c.size < c.policy.maxEntries then c.entries
  else if (c.live now).length < c.policy.maxEntries then c.live now
  else (c.live now).tail

section
variable (c : Cache)

@[simp] theorem holding_policy (l : List (String × Entry)) : (c.holding l).policy = c.policy := rfl

@[simp] theorem holding_size (l : List (String × Entry)) : (c.holding l).size = l.length := rfl

theorem live_sublist (now : Instant) : (c.live now).Sublist c.entries := List.filter_sublist

theorem mem_live {now : Instant} {x : String × Entry} :
    x ∈ c.live now ↔ x ∈ c.entries ∧ now < x.2.expiresAt := by
  simp [live, Entry.isExpired]

theorem spared_sublist (key : String) (now : Instant) :
    (c.spared key now).Sublist c.entries := by
  unfold spared
  split_ifs
  · exact List.filter_sublist
  · exact List.Sublist.refl _
  · exact c.live_sublist now
  · exact (List.tail_sublist _).trans (c.live_sublist now)

end

/-- Entries and order list the same keys, the older ones first, all of them made by now. -/
structure WellFormed (now : Instant) (c : Cache) : Prop where
  order_eq : c.order = c.entries.map place
  keys : (c.entries.map (·.1)).Nodup
  aged : c.entries.Pairwise fun x y => x.2.seq < y.2.seq ∧ x.2.createdAt ≤ y.2.createdAt
  seq_lt : ∀ x ∈ c.entries, x.2.seq < c.nextSeq
  past : ∀ x ∈ c.entries, x.2.createdAt ≤ now
  size_le : c.size ≤ max 1 c.policy.maxEntries

namespace WellFormed

variable {now : Instant} {c : Cache}

theorem find?_eq_some_iff (h : WellFormed now c) {key : String} {e : Entry} :
    c.find? key = some e ↔ (key, e) ∈ c.entries :=
  lookup_eq_some_iff_mem h.keys

theorem eq_of_key (h : WellFormed now c) {x y : String × Entry} (hx : x ∈ c.entries)
    (hy : y ∈ c.entries) (hk : x.1 = y.1) : x = y :=
  List.inj_on_of_nodup_map h.keys hx hy hk

theorem eq_of_seq (h : WellFormed now c) {x y : String × Entry} (hx : x ∈ c.entries)
    (hy : y ∈ c.entries) (hs : x.2.seq = y.2.seq) : x = y := by
  have hn : (c.entries.map (·.2.seq)).Nodup :=
    List.pairwise_map.2 (h.aged.imp fun ha => Nat.ne_of_lt ha.1)
  exact List.inj_on_of_nodup_map hn hx hy hs

theorem order_sorted (h : WellFormed now c) : c.order.Pairwise (·.1 < ·.1) := by
  rw [h.order_eq]
  exact List.pairwise_map.2 (h.aged.imp And.left)

theorem order_nodup (h : WellFormed now c) : (c.order.map (·.1)).Nodup :=
  List.pairwise_map.2 (h.order_sorted.imp fun hlt => Nat.ne_of_lt hlt)

/-- The order holds a number and a key exactly when the key's entry has the number. -/
theorem order_lookup_iff (h : WellFormed now c) {s : Nat} {key : String} :
    c.order.lookup s = some key ↔ ∃ e, c.find? key = some e ∧ e.seq = s := by
  rw [lookup_eq_some_iff_mem h.order_nodup, h.order_eq, List.mem_map]
  simp only [h.find?_eq_some_iff]
  constructor
  · rintro ⟨⟨k, e⟩, hm, he⟩
    obtain ⟨rfl, rfl⟩ := Prod.mk.inj he
    exact ⟨e, hm, rfl⟩
  · rintro ⟨e, hm, rfl⟩
    exact ⟨(key, e), hm, rfl⟩

theorem createdAt_le_of_seq_lt (h : WellFormed now c) {x y : String × Entry}
    (hx : x ∈ c.entries) (hy : y ∈ c.entries) (hs : x.2.seq < y.2.seq) :
    x.2.createdAt ≤ y.2.createdAt := by
  have ha := h.aged
  obtain ⟨older, newer, hl⟩ := List.append_of_mem hx
  rw [hl] at ha hy
  obtain ⟨-, hr, hlr⟩ := List.pairwise_append.1 ha
  rcases List.mem_append.1 hy with hy | hy
  · exact absurd (hlr y hy x List.mem_cons_self).1 (Nat.lt_asymm hs)
  · rcases List.mem_cons.1 hy with rfl | hy
    · exact Nat.le_refl _
    · exact (List.rel_of_pairwise_cons hr hy).2

theorem new (p : Policy) : WellFormed now { policy := p } where
  order_eq := rfl
  keys := List.nodup_nil
  aged := .nil
  seq_lt := by simp
  past := by simp
  size_le := Nat.zero_le _

theorem later (h : WellFormed now c) {t : Instant} (hle : now ≤ t) : WellFormed t c :=
  { h with past := fun x hx => Nat.le_trans (h.past x hx) hle }

theorem counted (h : WellFormed now c) (hits misses : Nat) :
    WellFormed now { c with hits, misses } :=
  ⟨h.order_eq, h.keys, h.aged, h.seq_lt, h.past, h.size_le⟩

theorem holding_self (h : WellFormed now c) : c.holding c.entries = c := by
  rw [Cache.holding, ← h.order_eq]

/-- A cache may lose entries as long as the order loses them, too. -/
theorem holding (h : WellFormed now c) {l : List (String × Entry)} (hl : l.Sublist c.entries) :
    WellFormed now (c.holding l) where
  order_eq := rfl
  keys := h.keys.sublist (hl.map _)
  aged := h.aged.sublist hl
  seq_lt := fun x hx => h.seq_lt x (hl.subset hx)
  past := fun x hx => h.past x (hl.subset hx)
  size_le := Nat.le_trans hl.length_le h.size_le

/-- A key that has no entry gets the last one in the order. -/
theorem push (h : WellFormed now c) {key : String} (hk : ∀ x ∈ c.entries, x.1 ≠ key)
    (hs : c.size < max 1 c.policy.maxEntries) (value : ConsumerSecret) (expiresAt : Instant) :
    WellFormed now (c.push key value now expiresAt) where
  order_eq := by
    simp only [Cache.push, h.order_eq, List.map_append, List.map_cons, List.map_nil, place]
  keys := by
    simp only [Cache.push, List.map_append, List.map_cons, List.map_nil]
    refine List.nodup_append'.2 ⟨h.keys, List.nodup_singleton _, ?_⟩
    rw [List.disjoint_singleton, List.mem_map]
    rintro ⟨x, hx, he⟩
    exact hk x hx he
  aged := by
    refine List.pairwise_append.2 ⟨h.aged, List.pairwise_singleton _ _, fun x hx y hy => ?_⟩
    obtain rfl := List.mem_singleton.1 hy
    exact ⟨h.seq_lt x hx, h.past x hx⟩
  seq_lt := by
    intro x hx
    rcases List.mem_append.1 hx with hx | hx
    · exact Nat.lt_succ_of_lt (h.seq_lt x hx)
    · obtain rfl := List.mem_singleton.1 hx
      exact Nat.lt_succ_self _
  past := by
    intro x hx
    rcases List.mem_append.1 hx with hx | hx
    · exact h.past x hx
    · obtain rfl := List.mem_singleton.1 hx
      exact Nat.le_refl _
  size_le := by
    simpa [Cache.push, size] using Nat.succ_le_of_lt hs

theorem filter_ne_of_find?_eq_none (h : WellFormed now c) {key : String}
    (hf : c.find? key = none) : c.entries.filter (·.1 != key) = c.entries := by
  refine List.filter_eq_self.2 fun x hx => bne_iff_ne.2 ?_
  rintro rfl
  rw [h.find?_eq_some_iff.2 hx] at hf
  cases hf

/-- Both lists lose the entry under the key: no other has its number. -/
theorem erase_eq (h : WellFormed now c) (key : String) :
    c.erase key = c.holding (c.entries.filter (·.1 != key)) := by
  rcases hf : c.find? key with _ | e
  · rw [h.filter_ne_of_find?_eq_none hf, h.holding_self]
    simp only [erase, hf]
  · have hm := h.find?_eq_some_iff.1 hf
    have hs : ∀ x ∈ c.entries, (x.2.seq != e.seq) = (x.1 != key) := by
      intro x hx
      rw [Bool.eq_iff_iff, bne_iff_ne, bne_iff_ne]
      refine not_congr ⟨fun hs => ?_, fun hk => ?_⟩
      · rw [h.eq_of_seq hx hm hs]
      · rw [h.eq_of_key hx hm hk]
    have ho : c.order.filter (·.1 != e.seq) = (c.entries.filter (·.1 != key)).map place := by
      rw [h.order_eq, List.filter_map]
      exact congrArg _ (List.filter_congr hs)
    simp only [erase, hf, ho, Cache.holding]

theorem foldl_erase : ∀ (l : List (String × Entry)) {c : Cache}, WellFormed now c →
    l.foldl (fun c x => c.erase x.1) c
      = c.holding (c.entries.filter fun x => !l.any (·.1 == x.1))
  | [], c, h => by
    simp only [List.foldl_nil, List.any_nil, Bool.not_false, List.filter_true, h.holding_self]
  | x :: l, c, h => by
    -- What is left without `x` is well-formed again.
    rw [List.foldl_cons, foldl_erase l (h.erase_eq x.1 ▸ h.holding List.filter_sublist),
      h.erase_eq]
    simp only [Cache.holding, List.filter_filter, List.any_cons, Bool.not_or, bne, Bool.and_comm,
      Bool.beq_comm]

theorem purge_eq (h : WellFormed now c) (t : Instant) : c.purge t = c.holding (c.live t) := by
  rw [purge, foldl_erase _ h]
  refine congrArg _ (List.filter_congr fun x hx => ?_)
  congr 1
  rw [Bool.eq_iff_iff, List.any_eq_true]
  constructor
  · rintro ⟨y, hy, hk⟩
    obtain ⟨hy, he⟩ := List.mem_filter.1 hy
    rwa [h.eq_of_key hx hy (eq_of_beq hk).symm]
  · exact fun he => ⟨x, List.mem_filter.2 ⟨hx, he⟩, beq_self_eq_true _⟩

/-- The first in the order is the first of the entries. -/
theorem evict_eq (h : WellFormed now c) : c.evict = c.holding c.entries.tail := by
  have ho := h.order_eq
  have hk := h.keys
  rcases he : c.entries with _ | ⟨x, l⟩
  · rw [he, List.map_nil] at ho
    rw [List.tail_nil, ← he, h.holding_self]
    simp only [evict, ho]
  · rw [he] at ho hk
    have hn : ((x :: l).filter (·.1 != x.1)) = l := by
      rw [List.filter_cons_of_neg (by simp)]
      refine List.filter_eq_self.2 fun y hy => bne_iff_ne.2 fun hyx => ?_
      exact (List.nodup_cons.1 hk).1 (List.mem_map.2 ⟨y, hy, hyx⟩)
    simp only [evict, Cache.holding, ho, he, List.map_cons, place, List.tail_cons, hn]

theorem set_eq (h : WellFormed now c) (key : String) (value : ConsumerSecret) (ttl : Option Int)
    (t : Instant) : c.set key value ttl t
      = (c.holding (c.spared key t)).push key value t (c.expiry t ttl) := by
  have hr : (if (c.find? key).isSome then c.erase key else c.makeRoom t)
      = c.holding (c.spared key t) := by
    simp only [makeRoom, h.purge_eq, (h.holding (c.live_sublist t)).evict_eq, spared, h.erase_eq,
      holding_size]
    split_ifs
    · rfl
    · exact h.holding_self.symm
    · rfl
    · rfl
  simp only [set, hr]

theorem spared_key_ne (h : WellFormed now c) {key : String} {t : Instant} :
    ∀ x ∈ c.spared key t, x.1 ≠ key := by
  intro x hx
  by_cases hf : (c.find? key).isSome = true
  · rw [spared, if_pos hf] at hx
    simpa using (List.mem_filter.1 hx).2
  · rintro rfl
    exact hf (by rw [h.find?_eq_some_iff.2 ((c.spared_sublist _ t).subset hx)]; rfl)

theorem spared_length_lt (h : WellFormed now c) (key : String) (t : Instant) :
    (c.spared key t).length < max 1 c.policy.maxEntries := by
  have hs := h.size_le
  have hl : (c.live t).length ≤ c.size := (c.live_sublist t).length_le
  unfold spared
  split_ifs with hf
  · obtain ⟨e, he⟩ := Option.isSome_iff_exists.1 hf
    have hm := h.find?_eq_some_iff.1 he
    have hlt : (c.entries.filter (·.1 != key)).length < c.size :=
      List.length_filter_lt_length_iff_exists.2 ⟨_, hm, by simp⟩
    omega
  · unfold size at *
    omega
  · omega
  · rw [List.length_tail]
    omega

theorem set (h : WellFormed now c) (key : String) (value : ConsumerSecret) (ttl : Option Int) :
    WellFormed now (c.set key value ttl now) := by
  rw [h.set_eq]
  exact (h.holding (c.spared_sublist key now)).push h.spared_key_ne (h.spared_length_lt key now) _ _

theorem delete (h : WellFormed now c) (key : String) : WellFormed now (c.delete key) := by
  rw [Cache.delete, h.erase_eq]
  exact h.holding List.filter_sublist

theorem clear (h : WellFormed now c) : WellFormed now c.clear :=
  h.holding (List.nil_sublist _)

/-- A look-up finds the entry of the key that is not expired. -/
theorem get_eq_some_iff (h : WellFormed now c) {key : String} {t : Instant}
    {value : ConsumerSecret} :
    (c.get key t).1 = some value ↔ ∃ e, (key, e) ∈ c.live t ∧ e.value = value := by
  simp only [mem_live, ← h.find?_eq_some_iff]
  rcases hf : c.find? key with _ | e
  · simp [get_of_none hf]
  · rcases Nat.lt_or_ge t e.expiresAt with he | he
    · simp [get_of_live hf he, he]
    · simp [get_of_expired hf he, Nat.not_lt.2 he]

theorem pruned_of_not_expired (h : WellFormed now c) {key : String} {t : Instant}
    (he : ∀ e, c.find? key = some e → t < e.expiresAt) : c.pruned key t = c.entries := by
  refine List.filter_eq_self.2 fun x hx => ?_
  by_cases hk : x.1 = key
  · have := he x.2 (h.find?_eq_some_iff.2 (hk ▸ hx))
    simp [Entry.isExpired, this]
  · simp [hk]

theorem pruned_of_expired (h : WellFormed now c) {key : String} {t : Instant} {e : Entry}
    (hf : c.find? key = some e) (he : e.expiresAt ≤ t) :
    c.pruned key t = c.entries.filter (·.1 != key) := by
  refine List.filter_congr fun x hx => ?_
  by_cases hk : x.1 = key
  · obtain rfl := h.eq_of_key hx (h.find?_eq_some_iff.1 hf) hk
    simp [Entry.isExpired, he]
  · simp [hk]

/-- A look-up takes out the entry of the key if it is expired, and counts a hit or a miss. -/
theorem get_snd (h : WellFormed now c) (key : String) (t : Instant) :
    (c.get key t).2 = { c.holding (c.pruned key t) with
      hits := c.hits + if (c.get key t).1.isSome then 1 else 0
      misses := c.misses + if (c.get key t).1.isSome then 0 else 1 } := by
  rcases hf : c.find? key with _ | e
  · rw [h.pruned_of_not_expired (by simp [hf]), h.holding_self, get_of_none hf]
    rfl
  · rcases Nat.lt_or_ge t e.expiresAt with he | he
    · rw [h.pruned_of_not_expired (by simpa [hf] using he), h.holding_self, get_of_live hf he]
      rfl
    · rw [h.pruned_of_expired hf he, get_of_expired hf he, h.erase_eq]
      rfl

theorem get (h : WellFormed now c) (key : String) (t : Instant) :
    WellFormed now (c.get key t).2 := by
  rw [h.get_snd]
  exact (h.holding List.filter_sublist).counted _ _

end WellFormed
end SecretBroker.Cache
