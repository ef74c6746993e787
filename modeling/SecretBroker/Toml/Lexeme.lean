import SecretBroker.Decimal.Binary64
import SecretBroker.Text.Digits
import SecretBroker.Toml.Value

/-!
# TOML lexemes

Strings in their four forms, numbers, and dates and times. Each reader takes the text from where it
stands and gives back what follows, or nothing when the text breaks the rules.
-/

namespace SecretBroker.Toml

/-- Reads from the start of a text; gives what was read and what follows. -/
abbrev Reader (α : Type) := List Char → Option (α × List Char)

def isBlank (c : Char) : Bool := c == ' ' || c == '\t'

def skipBlanks (cs : List Char) : List Char := cs.dropWhile isBlank

/-- Whether a character may stand on a line: a tab, or any but the controls. -/
def isLineChar (c : Char) : Bool := c == '\t' || (0x20 ≤ c.toNat && c.toNat != 0x7F)

/-- What follows a line break, if one begins the text. -/
def afterBreak? : List Char → Option (List Char)
  | '\n' :: cs => some cs
  | '\r' :: '\n' :: cs => some cs
  | _ => none

/-- What follows a comment, if one begins the text. -/
def skipComment (cs : List Char) : List Char :=
  match cs with
  | '#' :: cs => cs.dropWhile isLineChar
  | cs => cs

/-- The character that an escape stands for, its backslash read. -/
def escape? : Reader Char
  | c :: cs =>
    let code (n : Nat) : Option (Char × List Char) := do
      let digits := cs.take n
      if digits.length < n then none
      let code ← Text.numberIn? 16 digits
      if (0xD800 ≤ code ∧ code ≤ 0xDFFF) ∨ 0x10FFFF < code then none
      return (Char.ofNat code, cs.drop n)
    match c with
    | 'b' => some ('\x08', cs)
    | 't' => some ('\t', cs)
    | 'n' => some ('\n', cs)
    | 'f' => some ('\x0c', cs)
    | 'r' => some ('\r', cs)
    | '\x22' | '\\' => some (c, cs)
    | 'u' => code 4
    | 'U' => code 8
    | _ => none
  | [] => none

/-- A string on one line, its opening quote read. The first argument bounds its characters. -/
def line? (quote : Char) : (fuel : Nat) → Reader (List Char)
  | 0, _ => none
  | _, [] => none
  | fuel + 1, c :: cs =>
    if c == quote then some ([], cs)
    else if c == '\\' && quote == '\x22' then do
      let (d, rest) ← escape? cs
      let (ds, rest) ← line? quote fuel rest
      return (d :: ds, rest)
    else if isLineChar c then do
      let (ds, rest) ← line? quote fuel cs
      return (c :: ds, rest)
    else none

/-- What follows blanks and line breaks; the first argument bounds the breaks. -/
def skipBreaks : (fuel : Nat) → List Char → List Char
  | 0, cs => cs
  | fuel + 1, cs =>
    match afterBreak? (skipBlanks cs) with
    | some rest => skipBreaks fuel rest
    | none => skipBlanks cs

/-- What follows a backslash at the end of a line, and all blanks and line breaks after it; nothing
when more than blanks stand between the two. -/
def afterContinuation? (cs : List Char) : Option (List Char) := do
  let rest ← afterBreak? (skipBlanks cs)
  return skipBreaks rest.length rest

/-- A string over several lines, its opening quotes read. Up to two quotes may stand before the
closing ones. -/
def lines? (quote : Char) : (fuel : Nat) → Reader (List Char)
  | 0, _ => none
  | _, [] => none
  | fuel + 1, c :: cs =>
    if c == quote then
      let quotes := ((c :: cs).takeWhile (· == quote)).length
      let rest := (c :: cs).drop quotes
      if quotes < 3 then do
        let (ds, rest) ← lines? quote fuel rest
        return (List.replicate quotes quote ++ ds, rest)
      else if quotes ≤ 5 then some (List.replicate (quotes - 3) quote, rest)
      else none
    else if c == '\\' && quote == '\x22' then
      match afterContinuation? cs with
      | some rest => lines? quote fuel rest
      | none => do
        let (d, rest) ← escape? cs
        let (ds, rest) ← lines? quote fuel rest
        return (d :: ds, rest)
    else
      match afterBreak? (c :: cs) with
      | some rest => do
        let (ds, rest) ← lines? quote fuel rest
        return ('\n' :: ds, rest)
      | none =>
        if isLineChar c then do
          let (ds, rest) ← lines? quote fuel cs
          return (c :: ds, rest)
        else none

/-- A string in any form that a value may have. -/
def string? : Reader String
  | a :: cs =>
    if a == '\x22' || a == '\x27' then do
      let (ds, rest) ← match cs with
        | b :: c :: rest =>
          if a == b && b == c then lines? a (rest.length + 1) ((afterBreak? rest).getD rest)
          else line? a (cs.length + 1) cs
        | cs => line? a (cs.length + 1) cs
      return (String.ofList ds, rest)
    else none
  | [] => none

/-- One digit or more, single underscores between them: the digits, and what follows. -/
def digits? (isDigit : Char → Bool) : Reader (List Char)
  | [] => none
  | c :: cs =>
    if !isDigit c then none
    else
      match cs with
      | '_' :: d :: rest =>
        if isDigit d then (digits? isDigit (d :: rest)).map fun (ds, rest) => (c :: ds, rest)
        else some ([c], cs)
      | d :: rest =>
        if isDigit d then (digits? isDigit (d :: rest)).map fun (ds, rest) => (c :: ds, rest)
        else some ([c], cs)
      | [] => some ([c], [])

/-- A sign, if there is one: whether the number is negative. -/
def sign : List Char → Bool × List Char
  | '+' :: cs => (false, cs)
  | '-' :: cs => (true, cs)
  | cs => (false, cs)

/-- Decimal digits without a zero in front. -/
def wholeDigits? : Reader (List Char)
  | '0' :: cs => some (['0'], cs)
  | cs => digits? Char.isDigit cs

/-- The whole numbers are those of 64 bits. -/
def integerOf? (negative : Bool) (n : Nat) : Option Value :=
  if n < 2 ^ 63 ∨ (negative ∧ n = 2 ^ 63) then some (.integer (if negative then -n else n)) else none

/-- A whole number. -/
def integer? : Reader Value := fun cs =>
  let inBase (base : Nat) (cs : List Char) : Option (Value × List Char) := do
    let (ds, rest) ← digits? (fun c => (Text.numberIn? base [c]).isSome) cs
    return (← integerOf? false (← Text.numberIn? base ds), rest)
  match cs with
  | '0' :: 'x' :: rest => inBase 16 rest
  | '0' :: 'o' :: rest => inBase 8 rest
  | '0' :: 'b' :: rest => inBase 2 rest
  | cs => do
    let (negative, cs) := sign cs
    let (ds, rest) ← wholeDigits? cs
    return (← integerOf? negative (Text.decimal ds), rest)

/-- The power of ten behind a number, if there is one. -/
def power? : List Char → Option (Int × List Char)
  | c :: cs =>
    if c == 'e' || c == 'E' then do
      let (negative, cs) := sign cs
      let (ds, rest) ← digits? Char.isDigit cs
      return (if negative then -(Text.decimal ds : Int) else Text.decimal ds, rest)
    else none
  | [] => none

/-- Whether a positive number `n * 10 ^ e` is too large for a binary one. -/
def isHuge (n : Nat) (e : Int) : Bool :=
  if n = 0 then false
  else
    let size := (Nat.toDigits 10 n).length + e
    if size < 300 then false
    else if 320 < size then true
    else (Decimal.Binary64.ofRatio? (n * 10 ^ e.toNat) (10 ^ (-e).toNat)).isNone

/-- A number with a fraction or a power of ten, or one that is none. -/
def float? : Reader Value := fun cs => do
  let (negative, cs) := sign cs
  match cs with
  | 'i' :: 'n' :: 'f' :: rest | 'n' :: 'a' :: 'n' :: rest => return (.float, rest)
  | cs =>
    let (whole, rest) ← wholeDigits? cs
    let (fraction, rest) ← match rest with
      | '.' :: rest => (digits? Char.isDigit rest).map fun (ds, rest) => (some ds, rest)
      | rest => some (none, rest)
    let (power, rest) := match power? rest with
      | some (e, rest) => (some e, rest)
      | none => (none, rest)
    if fraction.isNone && power.isNone then none
    let places := (fraction.getD []).length
    let n := Text.decimal (whole ++ fraction.getD [])
    if !negative && isHuge n (power.getD 0 - places) then none
    return (.float, rest)

/-- Exactly `n` digits whose number is at least `lo` and at most `hi`. -/
def field? (n lo hi : Nat) : Reader Nat := fun cs =>
  let ds := cs.take n
  if ds.length < n || !ds.all Char.isDigit then none
  else
    let k := Text.decimal ds
    if lo ≤ k ∧ k ≤ hi then some (k, cs.drop n) else none

/-- What follows a character that must begin the text. -/
def after? (c : Char) : List Char → Option (List Char)
  | d :: cs => if d = c then some cs else none
  | [] => none

/-- The days of a month. -/
def monthLength (year month : Nat) : Nat :=
  if month = 2 then
    if year % 4 = 0 ∧ (year % 100 ≠ 0 ∨ year % 400 = 0) then 29 else 28
  else if month ∈ [4, 6, 9, 11] then 30
  else 31

/-- What follows a date. -/
def afterDate? (cs : List Char) : Option (List Char) := do
  let (year, cs) ← field? 4 0 9999 cs
  let (month, cs) ← field? 2 1 12 (← after? '-' cs)
  let (_, cs) ← field? 2 1 (monthLength year month) (← after? '-' cs)
  return cs

/-- What follows a time of day. -/
def afterTime? (cs : List Char) : Option (List Char) := do
  let (_, cs) ← field? 2 0 23 cs
  let (_, cs) ← field? 2 0 59 (← after? ':' cs)
  let (_, cs) ← field? 2 0 60 (← after? ':' cs)
  match cs with
  | '.' :: rest => if (rest.head?.map Char.isDigit).getD false then
      return rest.dropWhile Char.isDigit else none
  | cs => return cs

/-- What follows an offset from UTC, if there is one. -/
def afterOffset? (cs : List Char) : Option (List Char) :=
  match cs with
  | 'Z' :: rest | 'z' :: rest => some rest
  | '+' :: rest | '-' :: rest => do
    let (_, rest) ← field? 2 0 23 rest
    let (_, rest) ← field? 2 0 59 (← after? ':' rest)
    return rest
  | cs => some cs

/-- A date, a time of day, or both. -/
def dateTime? : Reader Value := fun cs =>
  match afterDate? cs with
  | some rest =>
    let afterDelimiter? : Option (List Char) := match rest with
      | c :: rest => if c == 'T' || c == 't' || c == ' ' then afterTime? rest else none
      | [] => none
    match afterDelimiter? with
    | some rest => (afterOffset? rest).map (.dateTime, ·)
    | none => some (.dateTime, rest)
  | none => (afterTime? cs).map (.dateTime, ·)

end SecretBroker.Toml
