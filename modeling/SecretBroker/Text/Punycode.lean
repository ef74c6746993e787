/-!
# Punycode

Texts of any characters written in letters, digits and hyphens. The plain characters come first,
then, behind a hyphen, where the others are put in: in ascending order, each as a step from the one
before, the steps being numbers of base 36 whose digits say themselves where a number ends. Where
that is adapts to the size of the steps.
-/

namespace SecretBroker.Text.Punycode

/-- The first character that is not plain. -/
def firstOther : Nat := 0x80

/-- The bias before any step. -/
def firstBias : Nat := 72

/-- The digit of a value below 36: a letter, or a figure from 26 on. -/
def digit (d : Nat) : Char := Char.ofNat (if d < 26 then 0x61 + d else 0x30 + (d - 26))

/-- The value of a digit; letters count in either case. -/
def digitValue? (c : Char) : Option Nat :=
  let n := c.toNat
  if 0x61 ≤ n ∧ n ≤ 0x7A then some (n - 0x61)
  else if 0x41 ≤ n ∧ n ≤ 0x5A then some (n - 0x41)
  else if 0x30 ≤ n ∧ n ≤ 0x39 then some (n - 0x30 + 26)
  else none

/-- A digit below this is the last one of its number; `k` is its place times 36. -/
def threshold (k bias : Nat) : Nat := max 1 (min 26 (k - bias))

theorem threshold_pos (k bias : Nat) : 1 ≤ threshold k bias := by simp only [threshold]; omega

theorem threshold_le (k bias : Nat) : threshold k bias ≤ 26 := by simp only [threshold]; omega

/-- A step made small, and 36 for each division that took. -/
def reduced (step k : Nat) : Nat × Nat :=
  if 455 < step then reduced (step / 35) (k + 36) else (step, k)
termination_by step

/-- The bias after a step to one of `count` places. -/
def adapted (step count : Nat) (isFirst : Bool) : Nat :=
  let halved := if isFirst then step / 700 else step / 2
  let (small, k) := reduced (halved + halved / count) 0
  k + 36 * small / (small + 38)

/-- The digits of a step from a place on. -/
def stepDigits (bias k step : Nat) : List Char :=
  let t := threshold k bias
  if step < t then [digit step]
  else digit (t + (step - t) % (36 - t)) :: stepDigits bias (k + 36) ((step - t) / (36 - t))
termination_by step
decreasing_by
  have := threshold_pos k bias
  calc (step - threshold k bias) / (36 - threshold k bias)
      ≤ step - threshold k bias := Nat.div_le_self _ _
    _ < step := by omega

/-- Writing under way: the digits so far, the step not yet written, the bias, and how many
characters are written. -/
structure Writing where
  digits : List Char := []
  step : Nat := 0
  bias : Nat := firstBias
  count : Nat

/-- One character of the text while those equal to `m` are written. -/
def Writing.pass (m plain : Nat) (w : Writing) (c : Char) : Writing :=
  if c.toNat < m then { w with step := w.step + 1 }
  else if c.toNat = m then
    { digits := w.digits ++ stepDigits w.bias 36 w.step, step := 0
      bias := adapted w.step (w.count + 1) (w.count == plain), count := w.count + 1 }
  else w

/-- The writing after all the given characters, which ascend; `n` is the least that may come. -/
def Writing.all (text : List Char) (plain : Nat) : (ms : List Nat) → (n : Nat) → Writing → Writing
  | [], _, w => w
  | m :: ms, n, w =>
    let w := text.foldl (pass m plain) { w with step := w.step + (m - n) * (w.count + 1) }
    all text plain ms (m + 1) { w with step := w.step + 1 }

/-- The text in letters, digits and hyphens. -/
def encode (text : List Char) : List Char :=
  let plain := text.filter fun c => c.toNat < firstOther
  let others := ((text.map Char.toNat).filter (firstOther ≤ ·)).mergeSort.eraseDups
  let w := Writing.all text plain.length others firstOther { count := plain.length }
  plain ++ (if plain = [] then [] else ['-']) ++ w.digits

/-- The step that digits write from a place on, and the digits behind it. -/
def readStep (bias : Nat) : (k weight : Nat) → List Char → Option (Nat × List Char)
  | _, _, [] => none
  | k, weight, c :: cs => do
    let d ← digitValue? c
    let t := threshold k bias
    if d < t then return (d * weight, cs)
    else
      let (step, rest) ← readStep bias (k + 36) (weight * (36 - t)) cs
      return (d * weight + step, rest)

/-- A character of a number, which must be that of one. -/
def char? (n : Nat) : Option Char := if n.isValidChar then some (Char.ofNat n) else none

/-- The text with the characters that digits put into it. The first argument bounds the steps; `n`
and `i` are the character put in last and the place behind it. -/
def putIn : (fuel n i bias : Nat) → (isFirst : Bool) → List Char → List Char → Option (List Char)
  | _, _, _, _, _, text, [] => some text
  | 0, _, _, _, _, _, _ => none
  | fuel + 1, n, i, bias, isFirst, text, c :: cs => do
    let (step, rest) ← readStep bias 36 1 (c :: cs)
    let count := text.length + 1
    let n := n + (i + step) / count
    let i := (i + step) % count
    let text := text.take i ++ (← char? n) :: text.drop i
    putIn fuel n (i + 1) (adapted step count isFirst) false text rest

/-- The text that letters, digits and hyphens write. A hyphen at the start of all is no digit. -/
def decode? (code : List Char) : Option (List Char) :=
  let digits := (code.reverse.takeWhile (· != '-')).reverse
  let plain := code.take (code.length - digits.length)
  if plain == ['-'] || plain.any (firstOther ≤ ·.toNat) then none
  else putIn digits.length firstOther 0 firstBias true plain.dropLast digits

end SecretBroker.Text.Punycode
