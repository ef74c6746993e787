/-!
# Binary floating point

Non-negative finite numbers with 53 significant bits, as a whole number times a power of two, and
the one nearest to a quotient, ties to the even neighbour. `roundDiv` is the rounding; everything
else is exact arithmetic on natural numbers.
-/

-- Powers of whole numbers are those of the core library, whatever else is imported.
attribute [instance (high), default_instance high] instPowNat

namespace SecretBroker.Decimal

/-- `n / d` rounded to the nearest whole number, a tie to the even one. -/
def roundDiv (n d : Nat) : Nat :=
  let q := n / d
  let r := n % d
  if 2 * r < d then q else if d < 2 * r then q + 1 else q + q % 2

/-- The number `mantissa * 2 ^ exponent`, with `mantissa < 2 ^ 53`. -/
structure Binary64 where
  mantissa : Nat
  exponent : Int
deriving DecidableEq, Repr

namespace Binary64

/-- The least exponent. -/
def minExponent : Int := -1074

/-- The greatest exponent of a number with 53 bits. -/
def maxExponent : Int := 971

/-- The quotient `num / (den * 2 ^ e)` as a fraction of natural numbers. -/
def scaled (num den : Nat) (e : Int) : Nat × Nat :=
  if 0 ≤ e then (num, den * 2 ^ e.toNat) else (num * 2 ^ (-e).toNat, den)

/-- The exponent at which `num / den` has 53 bits before the point, unless that is below the least
one. -/
def exponentFor (num den : Nat) : Int :=
  let e : Int := (num.log2 : Int) - den.log2 - 52
  let (n, d) := scaled num den e
  max minExponent (if n / d < 2 ^ 52 then e - 1 else e)

/-- The number nearest to `num / den`; nothing when that is too large. -/
def ofRatio? (num den : Nat) : Option Binary64 :=
  if num = 0 then some ⟨0, minExponent⟩
  else
    let e := exponentFor num den
    let (n, d) := scaled num den e
    let m := roundDiv n d
    let (m, e) := if m = 2 ^ 53 then (2 ^ 52, e + 1) else (m, e)
    if maxExponent < e then none else some ⟨m, e⟩

/-- The number as a fraction. -/
def toRatio (x : Binary64) : Nat × Nat :=
  if 0 ≤ x.exponent then (x.mantissa * 2 ^ x.exponent.toNat, 1)
  else (x.mantissa, 2 ^ (-x.exponent).toNat)

/-- The rational number that it is, but for a sign. -/
def toRat (x : Binary64) : Rat := mkRat x.toRatio.1 x.toRatio.2

/-- The number nearest to a rational one; what is too large for that stays as it is. -/
def nearest (q : Rat) : Rat :=
  match ofRatio? q.num.natAbs q.den with
  | some x => if q < 0 then -x.toRat else x.toRat
  | none => q

/-- The nearest number to a natural one. -/
def ofNat? (n : Nat) : Option Binary64 := ofRatio? n 1

def mul? (x y : Binary64) : Option Binary64 :=
  let (a, b) := x.toRatio
  let (c, d) := y.toRatio
  ofRatio? (a * c) (b * d)

/-- The rounded quotient, for a divisor other than zero. -/
def div? (x y : Binary64) : Option Binary64 :=
  let (a, b) := x.toRatio
  let (c, d) := y.toRatio
  ofRatio? (a * d) (b * c)

end Binary64
end SecretBroker.Decimal
