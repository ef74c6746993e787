import SecretBroker.Text.Digits

/-!
# Hosts

Where a URL leads: a domain name, or an address of 32 or 128 bits. An address of 32 bits is written
in up to four parts, decimal, octal or hexadecimal, of which the last takes up the remaining bytes;
one of 128 bits in eight pieces, the longest run of zeros left out.
-/

namespace SecretBroker.Url

inductive Host where
  | domain (name : String)
  | ipv4 (address : Nat)
  | ipv6 (pieces : List Nat)
deriving DecidableEq, Repr

/-- The digits of `n` in base sixteen. -/
def hexText (n : Nat) : String := String.ofList (Nat.toDigits 16 n)

/-- The lengths of the runs of zeros that start at each place. -/
def zeroRuns : List Nat → List Nat
  | [] => []
  | p :: ps =>
    let runs := zeroRuns ps
    (if p = 0 then (runs.head?.getD 0) + 1 else 0) :: runs

/-- Where the longest run of two or more zeros starts, and its length; of equal ones the first. -/
def longestZeroRun? (pieces : List Nat) : Option (Nat × Nat) :=
  let runs := zeroRuns pieces
  let longest := runs.foldl max 0
  if longest < 2 then none else some (runs.idxOf longest, longest)

/-- The text of an address of eight pieces, without its brackets. -/
def ipv6Text (pieces : List Nat) : String :=
  let group (ps : List Nat) : String := ":".intercalate (ps.map hexText)
  match longestZeroRun? pieces with
  | none => group pieces
  | some (start, length) => group (pieces.take start) ++ "::" ++ group (pieces.drop (start + length))

/-- The text of an address of four bytes. -/
def ipv4Text (address : Nat) : String :=
  ".".intercalate ([24, 16, 8, 0].map fun k => toString (address / 2 ^ k % 256))

/-- The host as it stands in a URL. -/
def Host.text : Host → String
  | .domain name => name
  | .ipv4 address => ipv4Text address
  | .ipv6 pieces => "[" ++ ipv6Text pieces ++ "]"

/-- The number that a part of an IPv4 address writes: hexadecimal after `0x`, octal after another
zero, else decimal. -/
def ipv4Number? (cs : List Char) : Option Nat :=
  match cs with
  | [] => none
  | '0' :: 'x' :: rest | '0' :: 'X' :: rest => Text.numberIn? 16 rest
  | '0' :: c :: rest => Text.numberIn? 8 (c :: rest)
  | cs => Text.numberIn? 10 cs

/-- Whether the name's last part, an empty one behind it aside, is a number, so that the name must
be an address. -/
def endsInNumber (name : List Char) : Bool :=
  let isNumber (last : List Char) : Bool :=
    (!last.isEmpty && last.all Char.isDigit) || (ipv4Number? last).isSome
  match (name.splitOn '.').reverse with
  | [] :: last :: _ => isNumber last
  | [] :: [] => false
  | last :: _ => isNumber last
  | [] => false

/-- The parts of an address, an empty one at the end left out. -/
def ipv4Parts (name : List Char) : List (List Char) :=
  let parts := name.splitOn '.'
  if parts.getLast? = some [] then parts.dropLast else parts

/-- The address that a text of up to four numbers writes. -/
def ipv4? (name : List Char) : Option Nat := do
  let parts := ipv4Parts name
  if 4 < parts.length then none
  let numbers ← parts.mapM ipv4Number?
  let last ← numbers.getLast?
  let firsts := numbers.dropLast
  if 256 ^ (4 - firsts.length) ≤ last || firsts.any (255 < ·) then none
  else some (firsts.zipIdx.foldr (fun (n, i) sum => n * 256 ^ (3 - i) + sum) last)

/-- The decimal number at the start of a text, without a zero in front and at most 255, and what
follows. -/
def byte? (cs : List Char) : Option (Nat × List Char) :=
  let ds := cs.takeWhile Char.isDigit
  if ds.isEmpty || (ds.head? == some '0' && 1 < ds.length) then none
  else
    match Text.numberIn? 10 ds with
    | some n => if n ≤ 255 then some (n, cs.dropWhile Char.isDigit) else none
    | none => none

/-- Four bytes between dots, as two pieces, to the end of the text. -/
def dottedPieces? (cs : List Char) : Option (List Nat) := do
  let (a, rest) ← byte? cs
  let '.' :: rest := rest | none
  let (b, rest) ← byte? rest
  let '.' :: rest := rest | none
  let (c, rest) ← byte? rest
  let '.' :: rest := rest | none
  let (d, rest) ← byte? rest
  if rest.isEmpty then some [a * 256 + b, c * 256 + d] else none

/-- The pieces of an IPv6 address from a place where a piece begins: those before the gap, and those
after it if there is one. `count` pieces have been read; the first argument bounds the steps. -/
def ipv6Pieces? : (fuel count : Nat) → (hasGap : Bool) → List Char →
    Option (List Nat × Option (List Nat))
  | 0, _, _, _ => none
  | _, _, _, [] => some ([], none)
  | fuel + 1, count, hasGap, c :: cs =>
    if 8 ≤ count then none
    else if c == ':' then
      if hasGap then none
      else do
        let (after, _) ← ipv6Pieces? fuel (count + 1) true cs
        some ([], some after)
    else
      let ds := ((c :: cs).take 4).takeWhile Text.isHexDigit
      let rest := (c :: cs).drop ds.length
      match rest with
      | '.' :: _ =>
        if ds.isEmpty || 6 < count then none
        else (dottedPieces? (c :: cs)).map (·, none)
      | ':' :: rest =>
        if rest.isEmpty then none
        else do
          let n ← Text.numberIn? 16 ds
          let (before, after) ← ipv6Pieces? fuel (count + 1) hasGap rest
          some (n :: before, after)
      | _ :: _ => none
      | [] => do
        let n ← Text.numberIn? 16 ds
        some ([n], none)

/-- The eight pieces that the text between brackets writes. -/
def ipv6? (cs : List Char) : Option (List Nat) := do
  if cs.length < 2 then none
  let (before, after) ← match cs with
    | ':' :: ':' :: rest => (ipv6Pieces? (cs.length + 1) 1 true rest).map fun (ps, _) => ([], some ps)
    | ':' :: _ => none
    | cs => ipv6Pieces? (cs.length + 1) 0 false cs
  match after with
  | none => if before.length = 8 then some before else none
  | some after =>
    if before.length + after.length < 8 then
      some (before ++ List.replicate (8 - before.length - after.length) 0 ++ after)
    else none

end SecretBroker.Url
