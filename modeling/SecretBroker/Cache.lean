import SecretBroker.Breaker
import SecretBroker.Credential

/-!
# The secret cache

Resolved secrets by the external id of their consumer, each with a lifetime. Expiry is lazy: an
entry past its lifetime is taken out when it is looked up, or when an insert needs room. A full
cache gives up the entry that was created first; reads do not renew an entry, a new value under its
key does.

Entries and their order of creation are kept apart: `entries` by key, `order` by sequence number,
oldest first.
-/

namespace SecretBroker

namespace Cache

/-- How long an entry lives when nothing else is said, and how many there may be. -/
structure Policy where
  defaultTtl : Duration := .ofSecs 300
  maxEntries : Nat := 1000
deriving DecidableEq, Repr

/-- The longest lifetime: 365 days. -/
def maxTtl : Duration := .ofSecs (365 * 24 * 60 * 60)

/-- A stored secret. -/
structure Entry where
  value : ConsumerSecret
  createdAt : Instant
  expiresAt : Instant
  /-- Its place in the order of creation. -/
  seq : Nat
deriving DecidableEq, Repr

/-- Whether the entry's lifetime is over. -/
def Entry.isExpired (e : Entry) (now : Instant) : Bool := e.expiresAt ≤ now

end Cache

open Cache in
structure Cache where
  policy : Policy := {}
  entries : List (String × Entry) := []
  /-- Sequence numbers and keys, oldest first. -/
  order : List (Nat × String) := []
  nextSeq : Nat := 0
  hits : Nat := 0
  misses : Nat := 0
deriving DecidableEq, Repr

namespace Cache

/-- The entry under a key, expired or not. -/
def find? (c : Cache) (key : String) : Option Entry := c.entries.lookup key

/-- How many entries there are, expired ones included. -/
def size (c : Cache) : Nat := c.entries.length

/-- The cache without the entry under a key. -/
def erase (c : Cache) (key : String) : Cache :=
  match c.find? key with
  | none => c
  | some e =>
    { c with entries := c.entries.filter (·.1 != key), order := c.order.filter (·.1 != e.seq) }

/-- The cache without any expired entry. -/
def purge (c : Cache) (now : Instant) : Cache :=
  (c.entries.filter (·.2.isExpired now)).foldl (fun c e => c.erase e.1) c

/-- The cache without the entry created first. -/
def evict (c : Cache) : Cache :=
  match c.order with
  | [] => c
  | (_, key) :: rest => { c with entries := c.entries.filter (·.1 != key), order := rest }

/-- The instant at which an entry made now expires: after a positive lifetime in seconds, the
default one for none or zero, both at most `maxTtl`; a negative one has passed already. -/
def expiry (c : Cache) (now : Instant) (ttl : Option Int) : Instant :=
  match ttl with
  | some t =>
    if 0 < t then now + (min (.ofSecs t.natAbs) maxTtl).toNanos
    else if t < 0 then now - t.natAbs * nanosPerSecond
    else now + (min c.policy.defaultTtl maxTtl).toNanos
  | none => now + (min c.policy.defaultTtl maxTtl).toNanos

/-- The secret under a key, if it has one that still lives; an expired entry is taken out. Counts
a hit or a miss. -/
def get (c : Cache) (key : String) (now : Instant) : Option ConsumerSecret × Cache :=
  match c.find? key with
  | some e =>
    if e.isExpired now then (none, { c.erase key with misses := c.misses + 1 })
    else (some e.value, { c with hits := c.hits + 1 })
  | none => (none, { c with misses := c.misses + 1 })

/-- Room for a new key: when the cache is full the expired entries go, and when that frees none
the one created first. -/
def makeRoom (c : Cache) (now : Instant) : Cache :=
  if c.size < c.policy.maxEntries then c
  else
    let purged := c.purge now
    if purged.size < c.policy.maxEntries then purged else purged.evict

/-- A new entry as the last created, for a key that has none. -/
def push (c : Cache) (key : String) (value : ConsumerSecret) (now expiresAt : Instant) : Cache :=
  { c with
    entries := c.entries ++ [(key, { value, createdAt := now, expiresAt, seq := c.nextSeq })]
    order := c.order ++ [(c.nextSeq, key)]
    nextSeq := c.nextSeq + 1 }

/-- Stores a secret in place of what was under the key. Only a key that is new may cost others
their place. -/
def set (c : Cache) (key : String) (value : ConsumerSecret) (ttl : Option Int) (now : Instant) :
    Cache :=
  let room := if (c.find? key).isSome then c.erase key else c.makeRoom now
  room.push key value now (c.expiry now ttl)

/-- The cache without the key. -/
def delete (c : Cache) (key : String) : Cache := c.erase key

/-- The cache without entries; the counters stay. -/
def clear (c : Cache) : Cache := { c with entries := [], order := [] }

/-- How long ago the entry under the key was made. -/
def age? (c : Cache) (key : String) (now : Instant) : Option Duration :=
  (c.find? key).map fun e => .ofNanos (now - e.createdAt)

section
variable {c : Cache} {key : String} {e : Entry} {now : Instant}

theorem get_of_none (h : c.find? key = none) :
    c.get key now = (none, { c with misses := c.misses + 1 }) := by
  simp only [get, h]

theorem get_of_expired (h : c.find? key = some e) (he : e.expiresAt ≤ now) :
    c.get key now = (none, { c.erase key with misses := c.misses + 1 }) := by
  simp only [get, h, Entry.isExpired, he, decide_true, ↓reduceIte]

theorem get_of_live (h : c.find? key = some e) (he : now < e.expiresAt) :
    c.get key now = (some e.value, { c with hits := c.hits + 1 }) := by
  simp only [get, h, Entry.isExpired, Nat.not_le.2 he, decide_false, Bool.false_eq_true, ↓reduceIte]

end

end Cache
end SecretBroker
