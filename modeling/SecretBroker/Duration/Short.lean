import SecretBroker.Duration

/-!
# The short text of a duration

One unit and a decimal fraction: `30s`, `1.5s`, `100ms`, `250.5µs`, `7ns`. The unit is the largest
of seconds, milliseconds, microseconds and nanoseconds in which the span is at least one, and the
fraction ends with its last digit that is not zero.
-/

namespace SecretBroker.Duration

/-- `part` of `10 ^ width` as decimal digits, zeros at the end dropped. -/
def fraction (part width : Nat) : String :=
  let digits := (toString part).toList
  let padded := List.replicate (width - digits.length) '0' ++ digits
  String.ofList (padded.reverse.dropWhile (· == '0')).reverse

/-- `whole` and `part` of `10 ^ width`, then the unit's name. -/
def inUnit (whole part width : Nat) (unit : String) : String :=
  if part = 0 then toString whole ++ unit
  else toString whole ++ "." ++ fraction part width ++ unit

/-- The text of the span in its largest fitting unit. -/
def short (d : Duration) : String :=
  if 0 < d.secs then inUnit d.secs d.nanos 9 "s"
  else if 1000000 ≤ d.nanos then inUnit (d.nanos / 1000000) (d.nanos % 1000000) 6 "ms"
  else if 1000 ≤ d.nanos then inUnit (d.nanos / 1000) (d.nanos % 1000) 3 "µs"
  else toString d.nanos ++ "ns"

end SecretBroker.Duration
