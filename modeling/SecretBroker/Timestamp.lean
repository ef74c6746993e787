/-!
# Timestamps

A wall-clock instant in UTC, to the millisecond, and its RFC 3339 text. The civil date is found
from the day number by counting in eras of 400 years that begin on the first of March, so that the
leap day ends a year.
-/

namespace SecretBroker

/-- Milliseconds since the first of January 1970, UTC. -/
structure Timestamp where
  millis : Nat
deriving DecidableEq, Repr

namespace Timestamp

/-- Year, month and day of a day number, day `0` being the first of January 1970. -/
def civil (day : Nat) : Nat × Nat × Nat :=
  let z := day + 719468
  let era := z / 146097
  let doe := z % 146097
  let yoe := (doe - doe / 1460 + doe / 36524 - doe / 146096) / 365
  let doy := doe - (365 * yoe + yoe / 4 - yoe / 100)
  let mp := (5 * doy + 2) / 153
  let month := if mp < 10 then mp + 3 else mp - 9
  let year := yoe + era * 400 + (if month ≤ 2 then 1 else 0)
  (year, month, doy - (153 * mp + 2) / 5 + 1)

/-- `n` in decimal with at least `width` digits. -/
def padded (width n : Nat) : String :=
  let digits := toString n
  String.ofList (List.replicate (width - digits.length) '0') ++ digits

/-- The RFC 3339 text, with three digits of milliseconds unless they are zero. -/
def render (t : Timestamp) : String :=
  let second := t.millis / 1000
  let (year, month, day) := civil (second / 86400)
  let ofDay := second % 86400
  let ms := t.millis % 1000
  padded 4 year ++ "-" ++ padded 2 month ++ "-" ++ padded 2 day ++ "T"
    ++ padded 2 (ofDay / 3600) ++ ":" ++ padded 2 (ofDay / 60 % 60) ++ ":" ++ padded 2 (ofDay % 60)
    ++ (if ms = 0 then "" else "." ++ padded 3 ms) ++ "Z"

end Timestamp
end SecretBroker
