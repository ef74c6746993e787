import SecretBroker.Json.Complaint
import SecretBroker.Text.Digits

/-!
# JSON lexemes

The smallest pieces of a JSON text: blanks, literals, strings and numbers. Each reader takes the
text from where it stands and gives back what follows, or nothing when the text breaks the rules.

A whole number within 64 bits is exact. Any other number is binary, and its digits count as long
as they fit into 64 bits; the power of ten is applied in one rounded multiplication or division,
or several divisions for very small numbers.
-/

namespace SecretBroker.Json

/-- The characters JSON allows between lexemes. -/
def isSpace (c : Char) : Bool := c == ' ' || c == '\n' || c == '\t' || c == '\r'

/-- The text from its first character that is not a blank. -/
def skipSpace (cs : List Char) : List Char := cs.dropWhile isSpace

/-- What follows the literal at the start of the text. -/
def afterLiteral? : (literal cs : List Char) → Option (List Char)
  | [], cs => some cs
  | _ :: _, [] => none
  | l :: ls, c :: cs => if l = c then afterLiteral? ls cs else none

/-- Four hexadecimal digits as a number, and what follows. -/
def hexUnit? : List Char → Option (Nat × List Char)
  | a :: b :: c :: d :: rest => do
    return (((← Text.hexDigit? a) * 16 + (← Text.hexDigit? b)) * 256
      + (← Text.hexDigit? c) * 16 + (← Text.hexDigit? d), rest)
  | _ => none

/-- The character that a backslash and this letter stand for. -/
def shortEscape? (c : Char) : Option Char :=
  if c == '\x22' || c == '\\' || c == '/' then some c
  else if c == 'b' then some '\x08'
  else if c == 'f' then some '\x0c'
  else if c == 'n' then some '\n'
  else if c == 'r' then some '\r'
  else if c == 't' then some '\t'
  else none

/-- The character of a `\u` escape, whose digits start the text: one unit, or a leading and a
trailing surrogate. -/
def unicodeEscape? (cs : List Char) : Option (Char × List Char) := do
  let (n, rest) ← hexUnit? cs
  if n < 0xD800 ∨ 0xDFFF < n then return (Char.ofNat n, rest)
  else if 0xDC00 ≤ n then none
  else
    match rest with
    | '\\' :: 'u' :: rest =>
      let (m, rest) ← hexUnit? rest
      if 0xDC00 ≤ m ∧ m ≤ 0xDFFF then
        return (Char.ofNat (0x10000 + (n - 0xD800) * 0x400 + (m - 0xDC00)), rest)
      else none
    | _ => none

/-- The characters of a string and what follows its closing quote, the text starting inside. The
first argument bounds the characters read. -/
def stringChars : Nat → List Char → Option (List Char × List Char)
  | 0, _ => none
  | _, [] => none
  | fuel + 1, c :: cs =>
    if c == '\x22' then some ([], cs)
    else if c == '\\' then
      match cs with
      | 'u' :: cs => do
        let (d, rest) ← unicodeEscape? cs
        let (ds, rest) ← stringChars fuel rest
        return (d :: ds, rest)
      | e :: cs => do
        let d ← shortEscape? e
        let (ds, rest) ← stringChars fuel cs
        return (d :: ds, rest)
      | [] => none
    else if c.toNat < 0x20 then none
    else do
      let (ds, rest) ← stringChars fuel cs
      return (c :: ds, rest)

/-- The string whose opening quote has been read. -/
def string? (cs : List Char) : Option (String × List Char) := do
  let (ds, rest) ← stringChars (cs.length + 1) cs
  return (String.ofList ds, rest)

/-- What follows a string that nobody asked for, the text starting inside it. Its `\u` escapes
need four digits and no more sense than that. -/
def skipString : List Char → Option (List Char)
  | [] => none
  | c :: cs =>
    if c == '\x22' then some cs
    else if c == '\\' then
      match cs with
      | 'u' :: a :: b :: d :: e :: cs =>
        if [a, b, d, e].all fun x => (Text.hexDigit? x).isSome then skipString cs else none
      | e :: cs => if (shortEscape? e).isSome then skipString cs else none
      | [] => none
    else if c.toNat < 0x20 then none
    else skipString cs

/-- The digits at the start of the text, and what follows. -/
def digits (cs : List Char) : List Char × List Char :=
  (cs.takeWhile Char.isDigit, cs.dropWhile Char.isDigit)

/-- The parts of a number as written: its digits before and after the point and its power of ten.
No point and no power are told apart from empty ones. -/
structure Numeral where
  negative : Bool
  whole : List Char
  fraction : Option (List Char)
  power : Option (Bool × List Char)
deriving DecidableEq, Repr

/-- The fraction of a number, if there is one. -/
def fraction? : List Char → Option (Option (List Char) × List Char)
  | '.' :: cs =>
    let (ds, rest) := digits cs
    if ds.isEmpty then none else some (some ds, rest)
  | cs => some (none, cs)

/-- The power of ten of a number, if there is one: whether it is negative, and its digits. -/
def power? : List Char → Option (Option (Bool × List Char) × List Char)
  | c :: cs =>
    if c == 'e' || c == 'E' then
      let (negative, cs) := match cs with
        | '-' :: cs => (true, cs)
        | '+' :: cs => (false, cs)
        | cs => (false, cs)
      let (ds, rest) := digits cs
      if ds.isEmpty then none else some (some (negative, ds), rest)
    else some (none, c :: cs)
  | [] => some (none, [])

/-- The number at the start of the text, sign included. -/
def numeral? (cs : List Char) : Option (Numeral × List Char) := do
  let (negative, cs) := match cs with
    | '-' :: cs => (true, cs)
    | cs => (false, cs)
  let (whole, rest) := digits cs
  if whole.isEmpty || (whole.head? == some '0' && 1 < whole.length) then none
  let (fraction, rest) ← fraction? rest
  let (power, rest) ← power? rest
  return ({ negative, whole, fraction, power }, rest)

/-- The largest number of 64 bits. -/
def wordMax : Nat := 2 ^ 64 - 1

/-- The digits appended to `n` as long as it stays within 64 bits, and how many were. -/
def absorb : (n : Nat) → List Char → Nat × Nat
  | n, [] => (n, 0)
  | n, d :: ds =>
    let m := n * 10 + (d.toNat - 48)
    if wordMax < m then (n, 0)
    else
      let (k, count) := absorb m ds
      (k, count + 1)

/-- `10 ^ k` as a binary number, for `k` up to 308. -/
def powerOfTen? (k : Nat) : Option Decimal.Binary64 := Decimal.Binary64.ofNat? (10 ^ k)

/-- `x * 10 ^ -k`, dividing by `10 ^ 308` while `k` is larger than that. -/
def shrink : (fuel : Nat) → Decimal.Binary64 → Nat → Option Decimal.Binary64
  | 0, x, _ => some x
  | fuel + 1, x, k => do
    if k ≤ 308 then x.div? (← powerOfTen? k)
    else if x.mantissa = 0 then return x
    else shrink fuel (← x.div? (← powerOfTen? 308)) (k - 308)

/-- The binary number for `n * 10 ^ e`; nothing when it is too large. -/
def binaryOf? (n : Nat) (e : Int) : Option Decimal.Binary64 := do
  let x ← Decimal.Binary64.ofNat? n
  if e < 0 then shrink (e.natAbs / 308 + 1) x e.natAbs
  else if e.toNat ≤ 308 then x.mul? (← powerOfTen? e.toNat)
  else if n = 0 then return x
  else none

/-- Powers of ten with more than this are not added up. -/
def powerLimit : Nat := 2 ^ 31 - 1

/-- The number that the parts denote; nothing when it is too large. -/
def Numeral.number? (x : Numeral) : Option Number :=
  let n := Text.decimal x.whole
  if x.fraction.isNone && x.power.isNone && !x.negative && n ≤ wordMax then some (.whole n)
  else if x.fraction.isNone && x.power.isNone && x.negative && 0 < n && n ≤ 2 ^ 63 then
    some (.whole (-n))
  else
    let (head, kept) := absorb 0 x.whole
    let (significand, places) := absorb head (x.fraction.getD [])
    let start : Int := (x.whole.length - kept : Nat) - (places : Int)
    let size := match x.power with
      | none => binaryOf? significand start
      | some (negative, ds) =>
        let e := Text.decimal ds
        if powerLimit < e then
          if significand = 0 ∨ negative then Decimal.Binary64.ofNat? 0 else none
        else binaryOf? significand (if negative then start - e else start + e)
    size.map (.binary x.negative)

/-- The number at the start of the text. -/
def number? (cs : List Char) : Option (Number × List Char) := do
  let (x, rest) ← numeral? cs
  return (← x.number?, rest)

/-- What an open bracket waits for. -/
inductive Frame where
  | array
  | object
deriving DecidableEq, Repr

/-- The name and colon of an object's entry that nobody asked for. -/
def skipName (cs : List Char) : Option (List Char) :=
  match skipSpace cs with
  | '\x22' :: cs => do
    match skipSpace (← skipString cs) with
    | ':' :: cs => return cs
    | _ => none
  | _ => none

/-- What follows a value that nobody asked for; values may be nested without limit. `frames` are
the open brackets around it, innermost first. The first argument bounds the values read. -/
def skipValues : Nat → List Frame → List Char → Option (List Char)
  | 0, _, _ => none
  | fuel + 1, frames, cs =>
    match skipSpace cs with
    | '[' :: cs =>
      match skipSpace cs with
      | ']' :: cs => closing fuel frames cs
      | cs => skipValues fuel (.array :: frames) cs
    | '\x7b' :: cs =>
      match skipSpace cs with
      | '\x7d' :: cs => closing fuel frames cs
      | cs => do skipValues fuel (.object :: frames) (← skipName cs)
    | 'n' :: cs => do closing fuel frames (← afterLiteral? ['u', 'l', 'l'] cs)
    | 't' :: cs => do closing fuel frames (← afterLiteral? ['r', 'u', 'e'] cs)
    | 'f' :: cs => do closing fuel frames (← afterLiteral? ['a', 'l', 's', 'e'] cs)
    | '\x22' :: cs => do closing fuel frames (← skipString cs)
    | c :: cs =>
      if c == '-' || c.isDigit then do closing fuel frames (← numeral? (c :: cs)).2 else none
    | [] => none
where
  /-- After a value: the next one within the same brackets, or the closing of one bracket. -/
  closing : Nat → List Frame → List Char → Option (List Char)
  | _, [], cs => some cs
  | 0, _ :: _, _ => none
  | fuel + 1, frame :: frames, cs =>
    match frame, skipSpace cs with
    | .array, ']' :: cs => closing fuel frames cs
    | .object, '\x7d' :: cs => closing fuel frames cs
    | .array, ',' :: cs => skipValues fuel (.array :: frames) cs
    | .object, ',' :: cs => do skipValues fuel (.object :: frames) (← skipName cs)
    | _, _ => none

/-- What follows a value that nobody asked for. -/
def skipValue (cs : List Char) : Option (List Char) := skipValues (2 * cs.length + 2) [] cs

end SecretBroker.Json
