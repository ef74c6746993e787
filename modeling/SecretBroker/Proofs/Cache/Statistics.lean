import Mathlib.Data.Set.Card
import SecretBroker.Cache.Stats
import SecretBroker.Proofs.Cache.Usage

/-!
# What the statistics tell

Statistics may be taken of a cache at any time between the moves, which changes nothing
(`asked_eq_run`). Of the queries only look-ups are counted, each of them once, as a hit if it gave a
secret (`ask_counts`). Every entry is under a key of its own, so there are as many entries as keys,
and those that are not expired are as many as the keys that a look-up would find at that instant.
Statistics tell these four numbers, whatever the cache was asked before (`stats_tell`).
-/

namespace SecretBroker.Cache

/-- A move, or a look at the statistics. -/
inductive Query where
  | move (m : Move)
  | stats
deriving DecidableEq

inductive Answer where
  | done
  | found (value : Option ConsumerSecret)
  | told (stats : Stats)
deriving DecidableEq

def Query.isGet : Query → Bool
  | .move (.get _) => true
  | _ => false

def Answer.isSecret : Answer → Bool
  | .found (some _) => true
  | _ => false

/-- What a query is answered, and what it leads to. -/
def Clocked.ask (s : Clocked) : Query → Answer × Clocked
  | .move (.get key) => (.found (s.cache.get key s.now).1, s.step (.get key))
  | .move m => (.done, s.step m)
  | .stats => (.told (s.cache.stats s.now), s)

/-- Where the queries so far lead, the latest first. -/
def asked (p : Policy) : List Query → Clocked
  | [] => run p []
  | q :: past => ((asked p past).ask q).2

/-- What the queries so far were answered. -/
def answers (p : Policy) : List Query → List Answer
  | [] => []
  | q :: past => ((asked p past).ask q).1 :: answers p past

/-- The moves among the queries. -/
def moves : List Query → List Move
  | [] => []
  | .move m :: past => m :: moves past
  | .stats :: past => moves past

section
variable {p : Policy}

theorem ask_move (s : Clocked) (m : Move) : (s.ask (.move m)).2 = s.step m := by
  rcases m with _ | _ | _ | _ | _ <;> rfl

theorem isSecret_ask (s : Clocked) (key : String) : (s.ask (.move (.get key))).1.isSecret = true
    ↔ ∃ value, (s.cache.get key s.now).1 = some value := by
  simp only [Clocked.ask]
  rcases (s.cache.get key s.now).1 with _ | value <;> simp [Answer.isSecret]

theorem asked_eq_run : ∀ h : List Query, asked p h = run p (moves h)
  | [] => rfl
  | .move m :: past => by rw [asked, ask_move, asked_eq_run past, moves, run_cons]
  | .stats :: past => asked_eq_run past

theorem wellFormed_asked (h : List Query) : WellFormed (asked p h).now (asked p h).cache := by
  rw [asked_eq_run]
  exact wellFormed_run _

end

/-- A query adds a hit if it is answered with a secret, and a hit or a miss if it is a look-up. -/
theorem ask_counts {s : Clocked} (h : WellFormed s.now s.cache) (q : Query) :
    (s.ask q).2.cache.hits = s.cache.hits + (if (s.ask q).1.isSecret then 1 else 0)
    ∧ (s.ask q).2.cache.hits + (s.ask q).2.cache.misses
      = s.cache.hits + s.cache.misses + (if q.isGet then 1 else 0) := by
  rcases q with (key | ⟨key, value, ttl⟩ | key | _ | span) | _
  · simp only [Clocked.ask, Clocked.step, h.get_snd]
    rcases (s.cache.get key s.now).1 with _ | value
    · exact ⟨rfl, rfl⟩
    · exact ⟨rfl, Nat.succ_add _ _⟩
  · simp only [Clocked.ask, Clocked.step, h.set_eq]
    exact ⟨rfl, rfl⟩
  · simp only [Clocked.ask, Clocked.step, delete, h.erase_eq]
    exact ⟨rfl, rfl⟩
  · exact ⟨rfl, rfl⟩
  · exact ⟨rfl, rfl⟩
  · exact ⟨rfl, rfl⟩

theorem counts_asked (p : Policy) : ∀ h : List Query,
    (asked p h).cache.hits = (answers p h).countP Answer.isSecret
    ∧ (asked p h).cache.hits + (asked p h).cache.misses = h.countP Query.isGet
  | [] => ⟨rfl, rfl⟩
  | q :: past => by
    obtain ⟨hhits, hsum⟩ := counts_asked p past
    obtain ⟨hhit, hget⟩ := ask_counts (wellFormed_asked (p := p) past) q
    rw [asked, answers, List.countP_cons, List.countP_cons]
    exact ⟨by rw [hhit, hhits], by rw [hget, hsum]⟩

theorem encard_keys {β : Type} {l : List (String × β)} (hl : (l.map (·.1)).Nodup) :
    {key | ∃ b, (key, b) ∈ l}.encard = l.length := by
  have hs : {key | ∃ b, (key, b) ∈ l} = ((l.map (·.1)).toFinset : Set String) := by
    ext key
    simp
  rw [hs, Set.encard_coe_eq_coe_finsetCard, List.toFinset_card_of_nodup hl, List.length_map]

section
variable {s : Clocked} (h : WellFormed s.now s.cache)
include h

theorem encard_stored : {key | s.cache.find? key ≠ none}.encard = s.cache.size := by
  have hs : {key | s.cache.find? key ≠ none} = {key | ∃ e, (key, e) ∈ s.cache.entries} := by
    ext key
    simp only [Set.mem_ofPred_eq, Option.ne_none_iff_exists', h.find?_eq_some_iff]
  rw [hs, encard_keys h.keys, size]

theorem encard_served : {key | (s.ask (.move (.get key))).1.isSecret}.encard
    = (s.cache.live s.now).length := by
  have hs : {key | (s.ask (.move (.get key))).1.isSecret}
      = {key | ∃ e, (key, e) ∈ s.cache.live s.now} := by
    ext key
    rw [Set.mem_ofPred_eq, Set.mem_ofPred_eq, isSecret_ask]
    constructor
    · rintro ⟨value, hv⟩
      obtain ⟨e, he, -⟩ := h.get_eq_some_iff.1 hv
      exact ⟨e, he⟩
    · rintro ⟨e, he⟩
      exact ⟨e.value, h.get_eq_some_iff.2 ⟨e, he, rfl⟩⟩
  have hl : ((s.cache.live s.now).map (·.1)).Nodup :=
    h.keys.sublist ((s.cache.live_sublist s.now).map _)
  rw [hs, encard_keys hl]

end

theorem stats_active (c : Cache) (now : Instant) :
    (c.stats now).active = (c.live now).length := List.countP_eq_length_filter

/-- Statistics tell how many look-ups there were and how many of them were answered with a secret,
how many keys are stored, and for how many of these a look-up would be answered with a secret at
that instant. Sets count nothing, whatever they purge or evict, nor do deletes and clears. Taking
statistics changes nothing, and had none been taken before nothing would be different. -/
theorem stats_tell (p : Policy) (h : List Query) :
    ∃ s, (asked p h).ask .stats = (.told s, asked p h)
      ∧ s.hits + s.misses = h.countP Query.isGet
      ∧ s.hits = (answers p h).countP Answer.isSecret
      ∧ {key | (asked p h).cache.find? key ≠ none}.encard = s.size
      ∧ {key | ((asked p h).ask (.move (.get key))).1.isSecret}.encard = s.active
      ∧ s.active ≤ s.size
      ∧ asked p h = run p (moves h) := by
  have hw := wellFormed_asked (p := p) h
  obtain ⟨hhits, hsum⟩ := counts_asked p h
  refine ⟨_, rfl, hsum, hhits, encard_stored hw, ?_, ?_, asked_eq_run h⟩
  · rw [stats_active, encard_served hw]
  · rw [stats_active]
    exact (live_sublist _ _).length_le

/-- A second after a secret was set to live for one, it is stored and not active any more. -/
example : ((asked {} [.move (.wait 1), .move (.get "alice"), .move (.wait 999999999),
      .move (.set "alice" { id := "1", key := "k", secret := "a" } (some 1))]).ask .stats).1
    = .told { size := 1, active := 0, hitRate := "100.00", memory := 104, hits := 1, misses := 0 } := by
  decide +kernel

end SecretBroker.Cache
