import SecretBroker.Proofs.Cache.Usage

/-!
# Room for a secret

A set takes no other entry with it if its key has one already or there is room. A full cache gives up
what has expired, and if nothing has, the one entry that was set longest ago (`set_spares`). Which one
that is can be read off the history by counting sets, and only sets, up to the last one of each key:
the count is the entry's number (`seq_eq_setsBefore`), so reads renew nothing.
-/

namespace SecretBroker.Cache

/-- How many sets there were. -/
def sets : List Move → Nat
  | [] => 0
  | .set _ _ _ :: past => sets past + 1
  | .get _ :: past => sets past
  | .delete _ :: past => sets past
  | .clear :: past => sets past
  | .wait _ :: past => sets past

/-- How many sets there were before the key was last set. -/
def setsBefore (key : String) : List Move → Nat
  | [] => 0
  | .set k _ _ :: past => if k = key then sets past else setsBefore key past
  | .get _ :: past => setsBefore key past
  | .delete _ :: past => setsBefore key past
  | .clear :: past => setsBefore key past
  | .wait _ :: past => setsBefore key past

variable {p : Policy}

theorem nextSeq_run : ∀ h : List Move, (run p h).cache.nextSeq = sets h
  | [] => rfl
  | m :: past => by
    have hw := wellFormed_run (p := p) past
    have ih := nextSeq_run past
    rw [run_cons]
    rcases m with key | ⟨key, value, ttl⟩ | key | _ | span
    · simp only [Clocked.step, hw.get_snd, holding, sets, ih]
    · simp only [Clocked.step, hw.set_eq, push, holding, sets, ih]
    · simp only [Clocked.step, delete, hw.erase_eq, holding, sets, ih]
    · exact ih
    · exact ih

theorem seq_eq_setsBefore : ∀ h : List Move, ∀ x ∈ (run p h).cache.entries,
    x.2.seq = setsBefore x.1 h
  | [], x, hx => by cases hx
  | m :: past, x, hx => by
    have ih := seq_eq_setsBefore past
    have hw := wellFormed_run (p := p) past
    rw [run_cons, entries_step hw] at hx
    rcases m with key | ⟨key, value, ttl⟩ | key | _ | span
    · exact ih x (List.mem_filter.1 hx).1
    · rcases List.mem_append.1 hx with hx | hx
      · rw [setsBefore, if_neg (hw.spared_key_ne x hx).symm]
        exact ih x ((spared_sublist _ key _).subset hx)
      · obtain rfl := List.mem_singleton.1 hx
        rw [setsBefore, if_pos rfl]
        exact nextSeq_run past
    · exact ih x (List.mem_filter.1 hx).1
    · cases hx
    · exact ih x hx

namespace WellFormed

variable {now : Instant} {c : Cache} {key : String}

/-- After a set the new entry is under its key, and under the others is what was spared. -/
theorem find?_set_eq (h : WellFormed now c) (value : ConsumerSecret) (ttl : Option Int) :
    (c.set key value ttl now).find? key
        = some { value, createdAt := now, expiresAt := c.expiry now ttl, seq := c.nextSeq }
      ∧ ∀ k, k ≠ key → ∀ e,
        ((c.set key value ttl now).find? k = some e ↔ (k, e) ∈ c.spared key now) := by
  have hw := h.set key value ttl
  refine ⟨hw.find?_eq_some_iff.2 ?_, fun k hk e => ?_⟩
  · simp only [h.set_eq, Cache.push, Cache.holding, List.mem_append, List.mem_singleton, or_true]
  · rw [hw.find?_eq_some_iff]
    simp only [h.set_eq, Cache.push, Cache.holding, List.mem_append, List.mem_singleton,
      Prod.mk.injEq, hk, false_and, or_false]

theorem find?_set_eq_of_spared (h : WellFormed now c) (value : ConsumerSecret) (ttl : Option Int)
    {k : String} (hk : k ≠ key) {found : Option Entry}
    (hs : ∀ e, (k, e) ∈ c.spared key now ↔ found = some e) :
    (c.set key value ttl now).find? k = found :=
  Option.ext fun e => ((h.find?_set_eq value ttl).2 k hk e).trans (hs e)

theorem spared_of_kept (hk : c.find? key ≠ none ∨ c.size < c.policy.maxEntries) {k : String}
    (hne : k ≠ key) (e : Entry) : (k, e) ∈ c.spared key now ↔ (k, e) ∈ c.entries := by
  by_cases hf : (c.find? key).isSome = true
  · rw [spared, if_pos hf, List.mem_filter]
    simp [hne]
  · have hroom := hk.resolve_left fun hn => hf (Option.isSome_iff_ne_none.2 hn)
    rw [spared, if_neg hf, if_pos hroom]

/-- Where there is no room, an expired entry makes some. -/
theorem spared_of_expired (h : WellFormed now c) (hp : 0 < c.policy.maxEntries)
    (hf : c.find? key = none) (hfull : c.policy.maxEntries ≤ c.size)
    {x : String × Entry} (hx : x ∈ c.entries) (he : x.2.expiresAt ≤ now) :
    c.spared key now = c.live now := by
  have hlt : (c.live now).length < c.entries.length :=
    List.length_filter_lt_length_iff_exists.2 ⟨x, hx, by simpa [Entry.isExpired] using he⟩
  have hs : c.entries.length ≤ max 1 c.policy.maxEntries := h.size_le
  have hroom : (c.live now).length < c.policy.maxEntries := by omega
  simp [spared, hf, Nat.not_lt.2 hfull, hroom]

theorem spared_of_unexpired (hf : c.find? key = none) (hfull : c.policy.maxEntries ≤ c.size)
    (hn : ∀ x ∈ c.entries, now < x.2.expiresAt) : c.spared key now = c.entries.tail := by
  have hl : c.live now = c.entries :=
    List.filter_eq_self.2 fun x hx => by simpa [Entry.isExpired] using hn x hx
  have hlen : ¬ c.entries.length < c.policy.maxEntries := Nat.not_lt.2 hfull
  simp [spared, hf, hl, size, hlen]

/-- The first entry is under another key than those behind it, and was set before them. -/
theorem tail_eq (h : WellFormed now c) (hne : c.entries ≠ []) :
    ∃ oldest, oldest ∈ c.entries
      ∧ (∀ x ∈ c.entries, x.1 ≠ oldest.1 → oldest.2.seq < x.2.seq)
      ∧ ∀ x, x ∈ c.entries.tail ↔ x ∈ c.entries ∧ x.1 ≠ oldest.1 := by
  have hk := h.keys
  have ha := h.aged
  rcases he : c.entries with _ | ⟨x, l⟩
  · exact absurd he hne
  rw [he] at hk ha
  obtain ⟨hx, -⟩ := List.nodup_cons.1 hk
  obtain ⟨ha, -⟩ := List.pairwise_cons.1 ha
  refine ⟨x, List.mem_cons_self, fun y hy hyx => ?_, fun y => ?_⟩
  · rcases List.mem_cons.1 hy with rfl | hy
    · exact absurd rfl hyx
    · exact (ha y hy).1
  · rw [List.tail_cons, List.mem_cons]
    constructor
    · intro hy
      exact ⟨.inr hy, fun hyx => hx (List.mem_map.2 ⟨y, hy, hyx⟩)⟩
    · rintro ⟨rfl | hy, hyx⟩
      · exact absurd rfl hyx
      · exact hy

section
variable (h : WellFormed now c) (value : ConsumerSecret) (ttl : Option Int)
include h

theorem find?_set_of_kept (hk : c.find? key ≠ none ∨ c.size < c.policy.maxEntries) {k : String}
    (hne : k ≠ key) : (c.set key value ttl now).find? k = c.find? k :=
  h.find?_set_eq_of_spared value ttl hne fun e =>
    (spared_of_kept hk hne e).trans h.find?_eq_some_iff.symm

theorem find?_set_of_expired (hp : 0 < c.policy.maxEntries) (hf : c.find? key = none)
    (hfull : c.policy.maxEntries ≤ c.size) {x : String × Entry} (hx : x ∈ c.entries)
    (he : x.2.expiresAt ≤ now) {k : String} (hne : k ≠ key) :
    (c.set key value ttl now).find? k = (c.find? k).filter fun e => now < e.expiresAt := by
  refine h.find?_set_eq_of_spared value ttl hne fun e => ?_
  rw [h.spared_of_expired hp hf hfull hx he, mem_live, Option.filter_eq_some_iff,
    h.find?_eq_some_iff, decide_eq_true_eq]

theorem find?_set_of_unexpired (hp : 0 < c.policy.maxEntries) (hf : c.find? key = none)
    (hfull : c.policy.maxEntries ≤ c.size) (hn : ∀ x ∈ c.entries, now < x.2.expiresAt) :
    ∃ oldest, oldest ∈ c.entries
      ∧ (∀ x ∈ c.entries, x.1 ≠ oldest.1 → oldest.2.seq < x.2.seq)
      ∧ ∀ k, k ≠ key →
        (c.set key value ttl now).find? k = if k = oldest.1 then none else c.find? k := by
  have hcons : c.entries ≠ [] := List.ne_nil_of_length_pos (Nat.lt_of_lt_of_le hp hfull)
  obtain ⟨oldest, hold, hbefore, htail⟩ := h.tail_eq hcons
  refine ⟨oldest, hold, hbefore, fun k hne => ?_⟩
  refine h.find?_set_eq_of_spared value ttl hne fun e => ?_
  rw [spared_of_unexpired hf hfull hn, htail, ← h.find?_eq_some_iff]
  by_cases hk : k = oldest.1
  · simp [hk]
  · simp [hk]

end

end WellFormed

/-- A set leaves the other entries alone if there was one under its key or there is room. Else it
takes out what has expired or, if nothing has, the one entry whose key was last set before all
others; and no more than that. The new entry is the last created. -/
theorem set_spares (hp : 0 < p.maxEntries) {h : List Move} {t : Instant} (ht : (run p h).now ≤ t)
    (key : String) (value : ConsumerSecret) (ttl : Option Int) :
    let c := (run p h).cache
    let after := c.set key value ttl t
    (c.find? key ≠ none ∨ c.size < p.maxEntries → ∀ k, k ≠ key → after.find? k = c.find? k)
    ∧ (c.find? key = none → p.maxEntries ≤ c.size →
      (∃ k e, c.find? k = some e ∧ e.expiresAt ≤ t) →
      ∀ k, k ≠ key → after.find? k = (c.find? k).filter fun e => t < e.expiresAt)
    ∧ (c.find? key = none → p.maxEntries ≤ c.size →
      (∀ k e, c.find? k = some e → t < e.expiresAt) →
      ∃ oldest, c.find? oldest ≠ none
        ∧ (∀ k, c.find? k ≠ none → k ≠ oldest → setsBefore oldest h < setsBefore k h)
        ∧ ∀ k, k ≠ key → after.find? k = if k = oldest then none else c.find? k)
    ∧ after.find? key
        = some { value, createdAt := t, expiresAt := c.expiry t ttl, seq := c.nextSeq }
    ∧ ∀ k e, k ≠ key → after.find? k = some e → e.seq < c.nextSeq ∧ e.createdAt ≤ t := by
  intro c after
  have hw : WellFormed t c := (wellFormed_run h).later ht
  have hpol : c.policy = p := policy_run h
  rw [← hpol] at hp ⊢
  refine ⟨fun hk k hne => hw.find?_set_of_kept value ttl hk hne, fun hf hfull hex k hne => ?_,
    fun hf hfull hn => ?_, (hw.find?_set_eq value ttl).1, fun k e hne he => ?_⟩
  · obtain ⟨k₀, e₀, hk₀, he₀⟩ := hex
    exact hw.find?_set_of_expired value ttl hp hf hfull (hw.find?_eq_some_iff.1 hk₀) he₀ hne
  · have hlive : ∀ x ∈ c.entries, t < x.2.expiresAt :=
      fun x hx => hn x.1 x.2 (hw.find?_eq_some_iff.2 hx)
    obtain ⟨⟨oldest, e₀⟩, hold, hbefore, hset⟩ :=
      hw.find?_set_of_unexpired value ttl hp hf hfull hlive
    have hfound : c.find? oldest ≠ none := by
      rw [hw.find?_eq_some_iff.2 hold]
      exact Option.some_ne_none e₀
    refine ⟨oldest, hfound, fun k hk hne => ?_, hset⟩
    obtain ⟨e, he⟩ := Option.ne_none_iff_exists'.1 hk
    have hm := hw.find?_eq_some_iff.1 he
    have hs := hbefore _ hm hne
    rwa [seq_eq_setsBefore h _ hold, seq_eq_setsBefore h _ hm] at hs
  · have hm := (c.spared_sublist key t).subset (((hw.find?_set_eq value ttl).2 k hne e).1 he)
    exact ⟨hw.seq_lt _ hm, hw.past _ hm⟩

/-- Of two, one was set again after the other, which was read since. -/
def renewed : List Move := [
  .get "bob",
  .set "alice" { id := "3", key := "k", secret := "a" } none,
  .wait 5,
  .set "bob" { id := "2", key := "k", secret := "b" } none,
  .set "alice" { id := "1", key := "k", secret := "a" } none]

/-- The one that was read goes, for a secret that never lives. -/
theorem set_spares_renewed :
    (0 < 2 ∧ (run { maxEntries := 2 } renewed).now ≤ 10)
    ∧ (∃ oldest, (run { maxEntries := 2 } renewed).cache.find? oldest ≠ none
        ∧ ∀ k, k ≠ "carol" → (((run { maxEntries := 2 } renewed).cache.set "carol"
            { id := "4", key := "k", secret := "c" } (some (-1)) 10).find? k
          = if k = oldest then none else (run { maxEntries := 2 } renewed).cache.find? k))
    ∧ ((run { maxEntries := 2 } renewed).cache.set "carol"
        { id := "4", key := "k", secret := "c" } (some (-1)) 10).find? "bob" = none := by
  have ht : (run { maxEntries := 2 } renewed).now ≤ 10 := by decide
  obtain ⟨-, -, hfull, -, -⟩ := set_spares (p := { maxEntries := 2 }) (by decide) ht "carol"
    { id := "4", key := "k", secret := "c" } (some (-1))
  have hn : ∀ x ∈ (run { maxEntries := 2 } renewed).cache.entries, 10 < x.2.expiresAt := by decide
  obtain ⟨oldest, hold, -, hk⟩ := hfull (by decide) (by decide)
    fun k e he => hn (k, e) (mem_of_lookup he)
  exact ⟨⟨by decide, ht⟩, ⟨oldest, hold, hk⟩, by decide⟩

end SecretBroker.Cache
