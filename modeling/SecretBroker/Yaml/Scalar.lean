import SecretBroker.Text.Digits
import SecretBroker.Yaml.Cursor

/-!
# YAML scalars

How the text of a scalar is read in each of its styles. A plain or quoted scalar may go over
several lines: a single line break becomes a space, and of several all but the first stay. A block
scalar keeps its line breaks or, folded, treats them in the same way between lines that are not
indented further.
-/

namespace SecretBroker.Yaml

/-- How a scalar is written. -/
inductive Style where
  | plain
  | quoted
  | literal
  | folded
deriving DecidableEq, Repr

/-- What stands between two parts of a scalar: blanks within a line, or a first line break and those
after it, which an escaped one leaves out. -/
inductive Gap where
  | blanks (text : List Char)
  | breaks (first more : List Char)
deriving DecidableEq, Repr

/-- What a gap contributes to the scalar's text. -/
def Gap.folded : Gap → List Char
  | .blanks text => text
  | .breaks first more =>
    if first = ['\n'] then (if more.isEmpty then [' '] else more) else first ++ more

/-- The gap from a place on, and the place behind it. A tab behind a line break must not stand
before column `indent`. The first argument bounds the steps. -/
def gap? (indent : Nat) : (fuel : Nat) → Gap → Cursor → Option (Gap × Cursor)
  | 0, _, _ => none
  | fuel + 1, g, p =>
    match p.here with
    | some c =>
      if isBlank c then
        match g with
        | .blanks text => gap? indent fuel (.blanks (text ++ [c])) p.skip
        | .breaks .. =>
          if c == '\t' && p.column < indent then none else gap? indent fuel g p.skip
      else if isBreak c then
        match g with
        | .blanks _ => gap? indent fuel (.breaks p.breakText []) p.skipBreak
        | .breaks first more => gap? indent fuel (.breaks first (more ++ p.breakText)) p.skipBreak
      else some (g, p)
    | none => some (g, p)

/-- Whether a plain scalar ends at a character of its line; nothing when a colon stands there that
must not. -/
def endsPlain? (inFlow : Bool) (p : Cursor) : Option Bool :=
  let isFlowMark (c : Char) : Bool := [',', '[', ']', '\x7b', '\x7d'].contains c
  let next := p.ahead 1
  match p.here with
  | none => some true
  | some c =>
    if inFlow && c == ':' && ((next.map fun d => d == '?' || isFlowMark d).getD false) then none
    else some (isBlank c || isBreak c || (c == ':' && p.isGap 1) || (inFlow && isFlowMark c))

/-- The part of a plain scalar on one line from a place on, without blanks. -/
def plainRun? (inFlow : Bool) : (fuel : Nat) → Cursor → Option (List Char × Cursor)
  | 0, _ => none
  | fuel + 1, p => do
    if ← endsPlain? inFlow p then return ([], p)
    match p.here with
    | none => return ([], p)
    | some c =>
      let (cs, q) ← plainRun? inFlow fuel p.skip
      return (c :: cs, q)

/-- A plain scalar from a place on: its text, whether line breaks were passed behind it, and the
place behind it. What follows a line break belongs to it only from column `indent` on. -/
def plain? (inFlow : Bool) (indent : Nat) : (fuel : Nat) → Cursor → Option (List Char × Bool × Cursor)
  | 0, _ => none
  | fuel + 1, p => do
    let (run, q) ← plainRun? inFlow (p.rest.length + 1) p
    if !(q.atBlank || q.atBreak) then return (run, false, q)
    let (g, q) ← gap? indent (q.rest.length + 1) (.blanks []) q
    let broken := match g with
      | .breaks .. => true
      | .blanks _ => false
    if (!inFlow && q.column < indent) || q.atDocumentMarker || q.has '#' then return (run, broken, q)
    let (more, brokenAfter, q') ← plain? inFlow indent fuel q
    if more.isEmpty then return (run, broken, q')
    return (run ++ g.folded ++ more, brokenAfter, q')

/-- The character that a backslash and this one stand for, and how many digits of its code point
follow when it is written by that. -/
def escape? (c : Char) : Option (Char ⊕ Nat) :=
  match c with
  | '0' => some (.inl '\x00')
  | 'a' => some (.inl '\x07')
  | 'b' => some (.inl '\x08')
  | 't' | '\t' => some (.inl '\t')
  | 'n' => some (.inl '\n')
  | 'v' => some (.inl '\x0b')
  | 'f' => some (.inl '\x0c')
  | 'r' => some (.inl '\r')
  | 'e' => some (.inl '\x1b')
  | ' ' | '\x22' | '/' | '\\' => some (.inl c)
  | 'N' => some (.inl '\u0085')
  | '_' => some (.inl '\u00a0')
  | 'L' => some (.inl '\u2028')
  | 'P' => some (.inl '\u2029')
  | 'x' => some (.inr 2)
  | 'u' => some (.inr 4)
  | 'U' => some (.inr 8)
  | _ => none

/-- The character with a code point written in `n` digits from a place on. -/
def codePoint? (n : Nat) (p : Cursor) : Option (Char × Cursor) := do
  let digits := p.rest.take n
  if digits.length < n then none
  let code ← Text.numberIn? 16 digits
  if (0xD800 ≤ code ∧ code ≤ 0xDFFF) ∨ 0x10FFFF < code then none
  return (Char.ofNat code, Cursor.skipN n p)

/-- A quoted scalar from behind its first quote: its text, and the place behind the last. -/
def quoted? (quote : Char) : (fuel : Nat) → Cursor → Option (List Char × Cursor)
  | 0, _ => none
  | fuel + 1, p =>
    if p.atDocumentMarker then none
    else
      match p.here with
      | none => none
      | some c =>
        if c == quote then
          if quote == '\x27' && p.hasAhead 1 '\x27' then do
            let (cs, q) ← quoted? quote fuel (Cursor.skipN 2 p)
            return ('\x27' :: cs, q)
          else some ([], p.skip)
        else if quote == '\x22' && c == '\\' then
          if (p.ahead 1).any isBreak then do
            let (g, q) ← gap? 0 (p.rest.length + 1) (.breaks [] []) p.skip.skipBreak
            let (cs, q) ← quoted? quote fuel q
            return (g.folded ++ cs, q)
          else do
            match ← escape? (← p.ahead 1) with
            | .inl d =>
              let (cs, q) ← quoted? quote fuel (Cursor.skipN 2 p)
              return (d :: cs, q)
            | .inr n =>
              let (d, q) ← codePoint? n (Cursor.skipN 2 p)
              let (cs, q) ← quoted? quote fuel q
              return (d :: cs, q)
        else if isBlank c || isBreak c then do
          let (g, q) ← gap? 0 (p.rest.length + 1) (.blanks []) p
          let (cs, q) ← quoted? quote fuel q
          return (g.folded ++ cs, q)
        else do
          let (cs, q) ← quoted? quote fuel p.skip
          return (c :: cs, q)

/-- What happens to the line breaks at the end of a block scalar. -/
inductive Chomping where
  | strip
  | clip
  | keep
deriving DecidableEq, Repr

/-- What follows a block scalar's first character: chomping, and its indentation beyond that of its
parent when it is given. -/
def blockHeader? (p : Cursor) : Option (Chomping × Option Nat × Cursor) :=
  let chomping? (p : Cursor) : Option (Chomping × Cursor) :=
    if p.has '+' then some (.keep, p.skip) else if p.has '-' then some (.strip, p.skip) else none
  let digit? (p : Cursor) : Option (Option Nat × Cursor) :=
    match p.here with
    | some c =>
      if c == '0' then none
      else if c.isDigit then some (some (c.toNat - 48), p.skip)
      else some (none, p)
    | none => some (none, p)
  match chomping? p with
  | some (chomping, p) => (digit? p).map fun (d, p) => (chomping, d, p)
  | none => do
    let (d, p) ← digit? p
    match d, chomping? p with
    | some _, some (chomping, p) => return (chomping, d, p)
    | _, _ => return (.clip, d, p)

/-- The empty lines and the indentation from a place on: the line breaks, how far the indentation
went, and the place behind them. Without a given indentation every space counts as such; a tab in
its place is refused. -/
def blockBreaks? (indent : Option Nat) : (fuel : Nat) → (widest : Nat) → Cursor →
    Option (List Char × Nat × Cursor)
  | 0, _, _ => none
  | fuel + 1, widest, p =>
    let width := (p.rest.takeWhile (· == ' ')).length
    let q := Cursor.skipN (match indent with
      | some n => min width (n - p.column)
      | none => width) p
    let widest := max widest q.column
    if q.has '\t' && (match indent with
      | some n => q.column < n
      | none => true) then none
    else if q.atBreak then do
      let (more, widest, q') ← blockBreaks? indent fuel widest q.skipBreak
      return (q.breakText ++ more, widest, q')
    else some ([], widest, q)

/-- The lines of a block scalar from a place on: its text up to the last line, the break behind
that, the empty lines after, and the place behind them. `lead` is the break before the place and
`breaks` the empty lines before it; `wasBlank` says whether the line before began with a blank. -/
def blockLines? (isFolded : Bool) (indent : Nat) : (fuel : Nat) → (lead breaks : List Char) →
    (wasBlank : Bool) → Cursor → Option (List Char × List Char × List Char × Cursor)
  | 0, _, _, _, _ => none
  | fuel + 1, lead, breaks, wasBlank, p =>
    if p.column != indent || p.atEnd then some ([], lead, breaks, p)
    else do
      let isBlankLine := p.atBlank
      let joint := if isFolded && lead == ['\n'] && !wasBlank && !isBlankLine then
        (if breaks.isEmpty then [' '] else []) else lead
      let (line, q) := p.takeWhile fun c => !isBreak c
      let (breaks', _, q') ← blockBreaks? (some indent) (q.rest.length + 2) 0 q.skipBreak
      let (text, lead', breaks', q') ← blockLines? isFolded indent fuel q.breakText breaks'
        isBlankLine q'
      return (joint ++ breaks ++ line ++ text, lead', breaks', q')

/-- A block scalar from behind its first character: its text, and the place behind it. `parent` is
the indentation of what it stands in. -/
def block? (isFolded : Bool) (parent : Option Nat) (p : Cursor) : Option (List Char × Cursor) := do
  let (chomping, digit, p) ← blockHeader? p
  let p := (p.skipWhile isBlank).skipComment
  if !p.atLineEnd then none
  let p := p.skipBreak
  let given := digit.map fun d => parent.getD 0 + d
  let (breaks, widest, p) ← blockBreaks? given (p.rest.length + 2) 0 p
  let least := (parent.map (· + 1)).getD 0
  let indent := given.getD (max 1 (max least widest))
  let (text, lead, breaks, p) ← blockLines? isFolded indent (p.rest.length + 2) [] breaks false p
  return (text ++ (if chomping = .strip then [] else lead) ++ (if chomping = .keep then breaks else []),
    p)

end SecretBroker.Yaml
