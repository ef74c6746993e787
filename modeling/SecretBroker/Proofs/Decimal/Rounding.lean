import Mathlib.Algebra.Order.Field.Basic
import Mathlib.Data.Rat.Cast.Order
import SecretBroker.Decimal.Binary64

/-!
# Rounding to a binary number goes past none

Whatever is at most a whole number of 53 bits, zeros at its end aside, is still at most that number
when it is rounded (`nearest_le`): the exponent at which a number is rounded is so large only if the
number is (`le_of_exponentFor`), so the bound is a multiple of the unit to which it is rounded, and a
quotient does not go past a whole number (`roundDiv_le`).
-/

-- Powers of whole numbers are those of the core library, whatever else is imported.
attribute [instance (high), default_instance high] instPowNat

namespace SecretBroker.Decimal

theorem roundDiv_le {n d k : Nat} (hd : 0 < d) (h : n ≤ k * d) : roundDiv n d ≤ k := by
  have hq : n / d ≤ k := Nat.div_le_of_le_mul (Nat.mul_comm k d ▸ h)
  rcases Nat.lt_or_eq_of_le hq with hlt | heq
  · simp only [roundDiv]
    split
    · omega
    · split <;> omega
  · have hr : n % d = 0 := by
      have hn := Nat.div_add_mod n d
      rw [heq, Nat.mul_comm] at hn
      omega
    simp only [roundDiv, heq, hr]
    rw [if_pos (by omega)]

namespace Binary64

variable {num den : Nat}

/-- Rounded to a unit that is no fraction, a number has 53 bits. -/
theorem le_of_exponentFor (hn : num ≠ 0) (he : 0 ≤ exponentFor num den) :
    2 ^ 52 * (den * 2 ^ (exponentFor num den).toNat) ≤ num := by
  have hlog := Nat.log2_self_le hn
  have hden : den < 2 ^ (den.log2 + 1) := Nat.lt_log2_self
  unfold exponentFor at he ⊢
  dsimp only at he ⊢
  generalize hx : (num.log2 : Int) - den.log2 - 52 = e at he ⊢
  split at he
  · -- One bit is missing at the first guess, so the unit is half of that.
    rename_i hlt
    rw [if_pos hlt]
    have hmax : max minExponent (e - 1) = e - 1 := by
      unfold minExponent at he ⊢
      omega
    rw [hmax] at he ⊢
    have hpow : 2 ^ 52 * (2 ^ (den.log2 + 1) * 2 ^ (e - 1).toNat) = 2 ^ num.log2 := by
      rw [← Nat.pow_add, ← Nat.pow_add]
      congr 1
      omega
    calc 2 ^ 52 * (den * 2 ^ (e - 1).toNat)
        ≤ 2 ^ 52 * (2 ^ (den.log2 + 1) * 2 ^ (e - 1).toNat) :=
          Nat.mul_le_mul_left _ (Nat.mul_le_mul_right _ hden.le)
      _ ≤ num := hpow ▸ hlog
  · rename_i hge
    rw [if_neg hge]
    have hmax : max minExponent e = e := by
      unfold minExponent at he ⊢
      omega
    rw [hmax] at he ⊢
    rw [scaled, if_pos he] at hge
    have hpos : 0 < den * 2 ^ e.toNat := by
      refine Nat.pos_of_ne_zero fun hz => hge ?_
      rw [hz, Nat.div_zero]
      decide
    exact (Nat.le_div_iff_mul_le hpos).1 (Nat.le_of_not_lt hge)

/-- The number is at most `y`. -/
def AtMost (x : Binary64) (y : Nat) : Prop := x.toRatio.1 ≤ y * x.toRatio.2

variable {m y : Nat} {e : Int}

theorem atMost_iff_of_nonneg (he : 0 ≤ e) : AtMost ⟨m, e⟩ y ↔ m * 2 ^ e.toNat ≤ y := by
  rw [AtMost, toRatio, if_pos he, Nat.mul_one]

theorem atMost_iff_of_neg (he : e < 0) : AtMost ⟨m, e⟩ y ↔ m ≤ y * 2 ^ (-e).toNat := by
  rw [AtMost, toRatio, if_neg (Int.not_le.2 he)]

/-- A 54th bit is carried over. -/
theorem AtMost.carry (h : AtMost ⟨2 ^ 53, e⟩ y) : AtMost ⟨2 ^ 52, e + 1⟩ y := by
  rcases Int.lt_or_le e 0 with he | he
  · have hpow : 2 ^ (-e).toNat = 2 ^ (-(e + 1)).toNat * 2 := by
      rw [← Nat.pow_succ]
      congr 1
      omega
    rw [atMost_iff_of_neg he, hpow, ← Nat.mul_assoc] at h
    rcases Int.lt_or_le (e + 1) 0 with he' | he'
    · rw [atMost_iff_of_neg he']
      omega
    · obtain rfl : e = -1 := by omega
      rw [atMost_iff_of_nonneg he']
      simpa using Nat.le_of_mul_le_mul_right (show 2 ^ 52 * 2 ≤ _ from h) two_pos
  · have hpow : 2 ^ (e + 1).toNat = 2 * 2 ^ e.toNat := by
      rw [← Nat.pow_succ']
      congr 1
      omega
    rw [atMost_iff_of_nonneg he] at h
    rw [atMost_iff_of_nonneg (by omega), hpow, ← Nat.mul_assoc]
    exact h

theorem atMost_roundDiv {k j : Nat} (hn : num ≠ 0) (hd : 0 < den) (hk : k ≤ 2 ^ 53)
    (h : num ≤ k * 2 ^ j * den) : AtMost ⟨roundDiv (scaled num den (exponentFor num den)).1
      (scaled num den (exponentFor num den)).2, exponentFor num den⟩ (k * 2 ^ j) := by
  rcases Int.lt_or_le (exponentFor num den) 0 with he | he
  · rw [atMost_iff_of_neg he, scaled, if_neg (Int.not_le.2 he)]
    refine roundDiv_le hd ?_
    rw [Nat.mul_right_comm]
    exact Nat.mul_le_mul_right _ h
  · have hlow := le_of_exponentFor hn he
    rw [atMost_iff_of_nonneg he, scaled, if_pos he]
    generalize (exponentFor num den).toNat = u at hlow
    have hpos : 0 < den * 2 ^ u := Nat.mul_pos hd (Nat.two_pow_pos u)
    rcases Nat.lt_or_ge j u with hu | hu
    · -- The number has all its 53 bits, so the bound is no larger.
      have hle : k * 2 ^ j ≤ 2 ^ 52 * 2 ^ u := by
        calc k * 2 ^ j ≤ 2 ^ 53 * 2 ^ (u - 1) :=
              Nat.mul_le_mul hk (Nat.pow_le_pow_right two_pos (by omega))
          _ = 2 ^ 52 * 2 ^ u := by
              rw [← Nat.pow_add, ← Nat.pow_add]
              congr 1
              omega
      have hge : 2 ^ 52 * 2 ^ u ≤ k * 2 ^ j := by
        refine Nat.le_of_mul_le_mul_right ?_ hd
        rw [Nat.mul_assoc, Nat.mul_comm (2 ^ u)]
        exact hlow.trans h
      rw [Nat.le_antisymm hle hge] at h ⊢
      refine Nat.mul_le_mul_right _ (roundDiv_le hpos ?_)
      rwa [Nat.mul_assoc, Nat.mul_comm (2 ^ u)] at h
    · have hunit : k * 2 ^ j = k * 2 ^ (j - u) * 2 ^ u := by
        rw [Nat.mul_assoc, ← Nat.pow_add, Nat.sub_add_cancel hu]
      rw [hunit] at h ⊢
      refine Nat.mul_le_mul_right _ (roundDiv_le hpos ?_)
      rwa [Nat.mul_assoc, Nat.mul_comm (2 ^ u)] at h

theorem atMost_ofRatio {k j : Nat} (hd : 0 < den) (hk : k ≤ 2 ^ 53) (h : num ≤ k * 2 ^ j * den)
    {x : Binary64} (hx : ofRatio? num den = some x) : AtMost x (k * 2 ^ j) := by
  unfold ofRatio? at hx
  split at hx
  · cases hx
    exact Nat.zero_le _
  · rename_i hn
    have hm := atMost_roundDiv hn hd hk h
    dsimp only at hx
    split at hx
    · rename_i hfull
      rw [hfull] at hm
      split at hx
      · cases hx
      · cases hx
        exact hm.carry
    · split at hx
      · cases hx
      · cases hx
        exact hm

theorem toRat_nonneg (x : Binary64) : 0 ≤ x.toRat := by
  rw [toRat, Rat.mkRat_eq_div]
  exact div_nonneg (by exact_mod_cast Nat.zero_le _) (Nat.cast_nonneg _)

theorem AtMost.toRat_le {x : Binary64} (h : AtMost x y) : x.toRat ≤ y := by
  have hden : 0 < x.toRatio.2 := by
    unfold toRatio
    split
    · exact Nat.one_pos
    · exact Nat.two_pow_pos _
  rw [toRat, Rat.mkRat_eq_div, div_le_iff₀ (by exact_mod_cast hden)]
  exact_mod_cast h

variable {q : Rat}

theorem nearest_nonneg (h : 0 ≤ q) : 0 ≤ nearest q := by
  unfold nearest
  split
  · rw [if_neg (not_lt.2 h)]
    exact toRat_nonneg _
  · exact h

/-- What is at most a number of 53 bits is so when it is rounded. -/
theorem nearest_le {k j : Nat} (hk : k ≤ 2 ^ 53) (h : q ≤ (k * 2 ^ j : Nat)) :
    nearest q ≤ (k * 2 ^ j : Nat) := by
  unfold nearest
  split
  · rename_i x hx
    split
    · exact (neg_nonpos.2 x.toRat_nonneg).trans (Nat.cast_nonneg _)
    · rename_i hq
      refine AtMost.toRat_le (atMost_ofRatio q.den_pos hk ?_ hx)
      have hnum : (q.num.natAbs : Int) = q.num :=
        Int.natAbs_of_nonneg (Rat.num_nonneg.2 (not_lt.1 hq))
      rw [Rat.le_iff, ← hnum, Rat.num_natCast, Rat.den_natCast, Nat.cast_one, mul_one] at h
      exact_mod_cast h
  · exact h

end Binary64
end SecretBroker.Decimal
