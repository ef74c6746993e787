/-!
# Properties as lists of flips

A set of code points written as the ascending list of points where membership changes, beginning
outside. A point belongs to the set when an odd number of flips is at most it.
-/

namespace SecretBroker.Unicode

/-- How many of the ascending `flips` between `lo` and `hi` are at most `n`, counted from the
start, by halving. -/
def countUpTo (flips : Array Nat) (n lo hi : Nat) : Nat :=
  if lo < hi then
    let mid := (lo + hi) / 2
    if flips.getD mid 0 ≤ n then countUpTo flips n (mid + 1) hi else countUpTo flips n lo mid
  else lo
termination_by hi - lo

/-- Whether `n` belongs to the set that `flips` writes. -/
def flipped (flips : Array Nat) (n : Nat) : Bool := countUpTo flips n 0 flips.size % 2 == 1

end SecretBroker.Unicode
