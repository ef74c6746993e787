/-!
# Durations

A span of time as whole seconds and a nanosecond part, the resolution of every timeout, delay and
lifetime here. Seconds stay below `2 ^ 64`; an operation that would leave that range stops at
`Duration.longest`. `toNanos` is the view in which a duration is one number.
-/

-- Powers of whole numbers are those of the core library, whatever else is imported.
attribute [instance (high), default_instance high] instPowNat

namespace SecretBroker

/-- Nanoseconds in a second. -/
def nanosPerSecond : Nat := 1000000000

/-- Nanoseconds in a millisecond. -/
def nanosPerMilli : Nat := 1000000

/-- A span of time: whole seconds below `2 ^ 64` and a nanosecond part below one second. -/
structure Duration where
  secs : Nat
  nanos : Nat
  secs_lt : secs < 2 ^ 64 := by decide
  nanos_lt : nanos < nanosPerSecond := by decide
deriving DecidableEq, Repr

namespace Duration

/-- The span as a number of nanoseconds. -/
def toNanos (d : Duration) : Nat := d.secs * nanosPerSecond + d.nanos

/-- Whole milliseconds, the rest dropped. -/
def toMillis (d : Duration) : Nat := d.secs * 1000 + d.nanos / 1000000

/-- The largest span. -/
def longest : Duration := { secs := 2 ^ 64 - 1, nanos := 999999999 }

/-- The empty span. -/
def zero : Duration := { secs := 0, nanos := 0 }

/-- `s` seconds and `n` nanoseconds, whole seconds of `n` carried over; nothing when the seconds
leave their range. -/
def ofParts? (s n : Nat) : Option Duration :=
  if h : s + n / nanosPerSecond < 2 ^ 64 then
    some { secs := s + n / nanosPerSecond, nanos := n % nanosPerSecond, secs_lt := h
           nanos_lt := Nat.mod_lt _ (by decide) }
  else none

/-- `s` seconds and `n` nanoseconds, stopping at the longest span. -/
def ofParts (s n : Nat) : Duration := (ofParts? s n).getD longest

def ofSecs (s : Nat) : Duration := ofParts s 0

def ofMillis (ms : Nat) : Duration := ofParts (ms / 1000) (ms % 1000 * 1000000)

def ofNanos (n : Nat) : Duration := ofParts (n / nanosPerSecond) (n % nanosPerSecond)

instance : LE Duration := ⟨fun a b => a.toNanos ≤ b.toNanos⟩
instance : LT Duration := ⟨fun a b => a.toNanos < b.toNanos⟩
instance (a b : Duration) : Decidable (a ≤ b) := inferInstanceAs (Decidable (a.toNanos ≤ b.toNanos))
instance (a b : Duration) : Decidable (a < b) := inferInstanceAs (Decidable (a.toNanos < b.toNanos))
instance : Min Duration := ⟨fun a b => if a ≤ b then a else b⟩

/-- The span `k` times over, seconds and nanoseconds multiplied apart and the carry added, stopping
at the longest span. -/
def saturatingMul (d : Duration) (k : Nat) : Duration := ofParts (d.secs * k) (d.nanos * k)

theorem longest_toNanos : longest.toNanos + 1 = 2 ^ 64 * nanosPerSecond := rfl

theorem toNanos_le_longest (d : Duration) : d.toNanos ≤ longest.toNanos := by
  have hs : (d.secs + 1) * nanosPerSecond ≤ 2 ^ 64 * nanosPerSecond :=
    Nat.mul_le_mul_right _ d.secs_lt
  have hn := d.nanos_lt
  rw [← longest_toNanos, Nat.add_mul, Nat.one_mul] at hs
  unfold toNanos at hs ⊢
  omega

/-- The number of nanoseconds is exact up to the longest span. -/
theorem toNanos_ofParts (s n : Nat) :
    (ofParts s n).toNanos = min (s * nanosPerSecond + n) longest.toNanos := by
  have hd : (s + n / nanosPerSecond) * nanosPerSecond + n % nanosPerSecond
      = s * nanosPerSecond + n := by
    rw [Nat.add_mul, Nat.add_assoc, Nat.div_add_mod']
  by_cases h : s + n / nanosPerSecond < 2 ^ 64
  · have he : (ofParts s n).toNanos = s * nanosPerSecond + n := by
      simp only [ofParts, ofParts?, h, ↓reduceDIte, Option.getD_some, toNanos, hd]
    rw [he, Nat.min_eq_left (he ▸ toNanos_le_longest _)]
  · have hl : 2 ^ 64 * nanosPerSecond ≤ (s + n / nanosPerSecond) * nanosPerSecond :=
      Nat.mul_le_mul_right _ (Nat.le_of_not_lt h)
    rw [← longest_toNanos] at hl
    rw [Nat.min_eq_right (by omega)]
    simp only [ofParts, ofParts?, h, ↓reduceDIte, Option.getD_none]

theorem toNanos_ofSecs (s : Nat) :
    (ofSecs s).toNanos = min (s * nanosPerSecond) longest.toNanos := by
  rw [ofSecs, toNanos_ofParts, Nat.add_zero]

theorem toNanos_min (a b : Duration) : (min a b).toNanos = min a.toNanos b.toNanos := by
  have h : min a b = if a.toNanos ≤ b.toNanos then a else b := rfl
  rw [h]
  split <;> omega

end Duration
end SecretBroker
