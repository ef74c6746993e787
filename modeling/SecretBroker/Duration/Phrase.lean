import SecretBroker.Duration
import SecretBroker.Text.Blank
import SecretBroker.Text.Digits

/-!
# Durations as people write them

A phrase such as `1h 30m` or `1.5s`: numbers, each with its unit, in any order and as often as one
likes. Blanks may stand anywhere but inside a unit. A fraction must come out even: in nanoseconds
for units up to the minute, in whole seconds for longer ones. Every number on the way has 64 bits,
and a phrase that needs more has no meaning. The text `0` needs no unit.
-/

namespace SecretBroker.Duration

/-- A unit: what one of it is in whole seconds and nanoseconds, and the count of seconds or
nanoseconds in which a fraction of it must come out even. -/
structure Unit where
  names : List String
  secs : Nat
  nanos : Nat
  fractionSecs : Nat
  fractionNanos : Nat

/-- The units. A month is the twelfth part of a year of 365.25 days, rounded to 30.44 days. -/
def units : List Unit := [
  ⟨["nanos", "nsec", "ns"], 0, 1, 0, 0⟩,
  ⟨["usec", "us", "µs"], 0, 1000, 0, 1000⟩,
  ⟨["millis", "msec", "ms"], 0, 1000000, 0, 1000000⟩,
  ⟨["seconds", "second", "secs", "sec", "s"], 1, 0, 0, 1000000000⟩,
  ⟨["minutes", "minute", "min", "mins", "m"], 60, 0, 0, 60000000000⟩,
  ⟨["hours", "hour", "hr", "hrs", "h"], 3600, 0, 3600, 0⟩,
  ⟨["days", "day", "d"], 86400, 0, 86400, 0⟩,
  ⟨["weeks", "week", "wk", "wks", "w"], 604800, 0, 604800, 0⟩,
  ⟨["months", "month", "M"], 2630016, 0, 2630016, 0⟩,
  ⟨["years", "year", "yr", "yrs", "y"], 31557600, 0, 31557600, 0⟩]

/-- One part of a phrase: the number's digits before and after the point, and the unit's name. -/
structure Part where
  whole : List Char
  fraction : Option (List Char)
  unit : String
deriving DecidableEq, Repr

/-- The digits, blanks between them dropped, at the start of the text, and what follows. -/
def looseDigits (cs : List Char) : List Char × List Char :=
  let isInside (c : Char) : Bool := c.isDigit || Text.isBlank c
  ((cs.takeWhile isInside).filter Char.isDigit, cs.dropWhile isInside)

/-- Whether the character can be in a unit's name. -/
def isUnitLetter (c : Char) : Bool := c.isAlpha || c == 'µ'

/-- The part at the start of the text, and what follows. -/
def part? (cs : List Char) : Option (Part × List Char) :=
  match cs with
  | c :: _ =>
    if !c.isDigit then none
    else
      let (whole, rest) := looseDigits cs
      let unit (fraction : Option (List Char)) (rest : List Char) : Option (Part × List Char) :=
        some ({ whole, fraction, unit := String.ofList (rest.takeWhile isUnitLetter) },
          rest.dropWhile isUnitLetter)
      match rest with
      | '.' :: rest =>
        let (fraction, rest) := looseDigits rest
        if fraction.isEmpty then none else unit (some fraction) rest
      | rest => unit none rest
  | [] => none

/-- All parts of a text; the first argument bounds their number. -/
def parts? : (fuel : Nat) → List Char → Option (List Part)
  | 0, _ => none
  | fuel + 1, cs =>
    match cs.dropWhile Text.isBlank with
    | [] => some []
    | cs => do
      let (p, rest) ← part? cs
      return p :: (← parts? fuel rest)

/-- A number that fits into 64 bits. -/
def word? (n : Nat) : Option Nat := if n < 2 ^ 64 then some n else none

/-- The sum with seconds and nanoseconds. -/
def plus? (d : Duration) (secs nanos : Nat) : Option Duration := do
  let nanos ← word? (d.nanos + nanos)
  ofParts? (d.secs + secs) nanos

/-- The quotient of 64-bit numbers when it leaves no rest. -/
def evenly? (n d : Nat) : Option Nat := do
  let n ← word? n
  if n % d = 0 then some (n / d) else none

/-- The sum with a part. -/
def plusPart? (d : Duration) (p : Part) : Option Duration := do
  let unit ← units.find? (p.unit ∈ ·.names)
  let n ← word? (Text.decimal p.whole)
  let d ← d.plus? (← word? (n * unit.secs)) (← word? (n * unit.nanos))
  match p.fraction with
  | none => return d
  | some ds =>
    if unit.fractionSecs = 0 ∧ unit.fractionNanos = 0 then none
    else
      let scale ← word? (10 ^ ds.length)
      let n := Text.decimal ds
      d.plus? (← evenly? (n * unit.fractionSecs) scale) (← evenly? (n * unit.fractionNanos) scale)

/-- The duration that a phrase denotes. -/
def ofPhrase? (phrase : String) : Option Duration := do
  if phrase = "0" then return zero
  let parts ← parts? (phrase.length + 1) phrase.toList
  if parts.isEmpty then none else parts.foldlM plusPart? zero

end SecretBroker.Duration
