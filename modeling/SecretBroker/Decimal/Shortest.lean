import SecretBroker.Decimal.Binary64

/-!
# Shortest decimals

The fewest significant digits that read back as a given binary number, and of those the nearest to
it. If a point of a decimal grid lies in the interval of numbers that round to the given one, so
does one of the two grid points around it; so the search goes through the grids of 1, 2, … 17
digits and looks at two points of each.
-/

namespace SecretBroker.Decimal

/-- The number `digits * 10 ^ exponent`. -/
structure Scientific where
  digits : Nat
  exponent : Int
deriving DecidableEq, Repr

/-- The same number without zeros at the end of its digits. -/
def Scientific.normal (x : Scientific) : Scientific :=
  let zeros := ((toString x.digits).toList.reverse.takeWhile (· == '0')).length
  if x.digits = 0 then ⟨0, 0⟩ else ⟨x.digits / 10 ^ zeros, x.exponent + zeros⟩

/-- `num / den * 10 ^ -p` as a fraction. -/
def overPower (num den : Nat) (p : Int) : Nat × Nat :=
  if 0 ≤ p then (num, den * 10 ^ p.toNat) else (num * 10 ^ (-p).toNat, den)

/-- The power of ten of the first digit of `num / den`, for a quotient of at least `10 ^ -400`. -/
def decade (num den : Nat) : Int :=
  if den ≤ num then ((Nat.toDigits 10 (num / den)).length : Int) - 1
  else -(((List.range 400).find? fun k => den ≤ num * 10 ^ k).getD 400 : Nat)

/-- Numerators over `4 * 2 ^ -exponent` of the interval that rounds to the number, its ends. -/
def Binary64.interval (x : Binary64) : Nat × Nat :=
  let below := if x.mantissa = 2 ^ 52 ∧ Binary64.minExponent < x.exponent then 1 else 2
  (4 * x.mantissa - below, 4 * x.mantissa + 2)

/-- Whether `c * 10 ^ p` rounds to the number. -/
def Binary64.readsBack (x : Binary64) (c : Nat) (p : Int) : Bool :=
  let (lo, hi) := x.interval
  let (n, d) := if 0 ≤ p then (c * 10 ^ p.toNat, 1) else (c, 10 ^ (-p).toNat)
  let (unit, parts) := if 0 ≤ x.exponent then (2 ^ x.exponent.toNat, 1)
    else (1, 2 ^ (-x.exponent).toNat)
  let v := n * parts * 4
  let atLeast := lo * unit * d
  let atMost := hi * unit * d
  if x.mantissa % 2 = 0 then atLeast ≤ v && v ≤ atMost else atLeast < v && v < atMost

/-- The nearer of the grid points `c` and `c + 1` to `n / d` among those that read back. -/
def Binary64.onGrid (x : Binary64) (n d : Nat) (p : Int) : Option Scientific :=
  let c := n / d
  let low := x.readsBack c p
  let high := x.readsBack (c + 1) p
  if low && high then some ⟨roundDiv n d, p⟩
  else if low then some ⟨c, p⟩
  else if high then some ⟨c + 1, p⟩
  else none

/-- The shortest decimal that reads back as the number. -/
def Binary64.shortest (x : Binary64) : Scientific :=
  if x.mantissa = 0 then ⟨0, 0⟩
  else
    let (num, den) := x.toRatio
    let top := decade num den
    let hit := (List.range 17).findSome? fun (k : Nat) =>
      let p := top - k
      let (n, d) := overPower num den p
      x.onGrid n d p
    (hit.getD ⟨0, 0⟩).normal

end SecretBroker.Decimal
