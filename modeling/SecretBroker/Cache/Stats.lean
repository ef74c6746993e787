import SecretBroker.Cache
import SecretBroker.Decimal.Layout

/-!
# Cache statistics

A report on a cache at one instant. Making it changes nothing.
-/

namespace SecretBroker.Cache

structure Stats where
  /-- Entries present, expired ones included. -/
  size : Nat
  /-- Entries that still live. -/
  active : Nat
  hitRate : String
  /-- Approximate bytes held. -/
  memory : Nat
  hits : Nat
  misses : Nat
deriving DecidableEq, Repr

/-- Bytes an entry is taken to cost beside its texts. -/
def entryOverhead : Nat := 96

/-- Approximate bytes of an entry under a key. -/
def Entry.footprint (e : Entry) (key : String) : Nat :=
  key.utf8ByteSize + e.value.id.utf8ByteSize + e.value.key.utf8ByteSize
    + e.value.secret.utf8ByteSize + (e.value.owner.map (·.utf8ByteSize)).getD 0 + entryOverhead

/-- Hits in a hundred look-ups, with two places. The quotient and the product are each rounded to
a binary number before the text is. -/
def hitRate (hits misses : Nat) : String :=
  let percent := do
    let h ← Decimal.Binary64.ofNat? hits
    let t ← Decimal.Binary64.ofNat? (hits + misses)
    let q ← h.div? t
    q.mul? (← Decimal.Binary64.ofNat? 100)
  match percent with
  | some x => if hits + misses = 0 then "0.00" else Decimal.fixed x.toRatio.1 x.toRatio.2 2
  | none => "0.00"

def stats (c : Cache) (now : Instant) : Stats where
  size := c.size
  active := c.entries.countP fun (_, e) => !e.isExpired now
  hitRate := hitRate c.hits c.misses
  memory := c.entries.foldr (fun (key, e) held => e.footprint key + held) 0
  hits := c.hits
  misses := c.misses

end SecretBroker.Cache
