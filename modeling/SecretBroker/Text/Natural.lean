/-!
# Natural numbers as people write them

Decimal digits, after a plus sign if one likes; nothing else counts, and the number has a bound.
-/

namespace SecretBroker.Text

/-- Why a text is not a number below the bound. -/
inductive NaturalError where
  | empty
  | invalidDigit
  | tooLarge
deriving DecidableEq, Repr

def NaturalError.message : NaturalError → String
  | .empty => "cannot parse integer from empty string"
  | .invalidDigit => "invalid digit found in string"
  | .tooLarge => "number too large to fit in target type"

/-- The digits read on from `n`, refused at the first character that is no digit or makes the
number reach `bound`. -/
def readDigits (bound : Nat) : (n : Nat) → List Char → Except NaturalError Nat
  | n, [] => .ok n
  | n, c :: cs =>
    if !c.isDigit then .error .invalidDigit
    else
      let m := n * 10 + (c.toNat - 48)
      if m < bound then readDigits bound m cs else .error .tooLarge

/-- The number that a text writes, if it is below `bound`. -/
def natural (bound : Nat) (s : String) : Except NaturalError Nat :=
  match s.toList with
  | [] => .error .empty
  | ['+'] => .error .invalidDigit
  | '+' :: cs => readDigits bound 0 cs
  | cs => readDigits bound 0 cs

end SecretBroker.Text
