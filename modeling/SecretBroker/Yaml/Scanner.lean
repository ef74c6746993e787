import SecretBroker.Yaml.Token

/-!
# From text to tokens

The text is read from front to back. Blocks are opened and closed by the column in which a token
stands: `indents` holds the columns of the open ones, innermost first. A key needs no mark in front
of it, so each place where one may begin is kept in `keys`, one for each level of brackets; when a
colon follows on the same line, the key token is put in before what was read since.
-/

namespace SecretBroker.Yaml

/-- A place where a key may have begun: the number of tokens before it, and whether the key must
come, for nothing else may stand there. -/
structure PossibleKey where
  tokenCount : Nat
  start : Cursor
  isRequired : Bool
deriving DecidableEq, Repr

structure Scanner where
  place : Cursor
  tokens : Array Token := #[]
  /-- The possible key of each level of brackets, innermost first; the last is that of the block. -/
  keys : List (Option PossibleKey) := [none]
  indents : List Nat := []
  /-- Whether a key may begin here. -/
  keyAllowed : Bool := true
deriving Repr

namespace Scanner

/-- Whether the place is inside brackets. -/
def inFlow (s : Scanner) : Bool := 1 < s.keys.length

/-- The scanner with one more token and at another place. -/
def emit (s : Scanner) (token : Token) (place : Cursor) : Scanner :=
  { s with tokens := s.tokens.push token, place }

/-- Closes the blocks that stand further right than a column; all of them without one. -/
def closeBlocks (s : Scanner) (column : Option Nat) : Scanner :=
  if s.inFlow then s
  else
    let isOpen (indent : Nat) : Bool := column.all (· < indent)
    let closed := s.indents.takeWhile isOpen
    { s with
      indents := s.indents.dropWhile isOpen
      tokens := closed.foldl (fun tokens _ => tokens.push .blockEnd) s.tokens }

/-- Opens a block at a column, unless the current one stands there or further right. Its token is
put in after `count` tokens. -/
def openBlock (s : Scanner) (column count : Nat) (token : Token) : Scanner :=
  if s.inFlow || s.indents.head?.any (column ≤ ·) then s
  else
    { s with
      indents := column :: s.indents
      tokens := s.tokens.insertIdxIfInBounds count token }

/-- Gives up the possible key of the current level; refused when it must come. -/
def dropKey? (s : Scanner) : Option Scanner :=
  match s.keys with
  | [] => some s
  | key :: keys =>
    if key.any (·.isRequired) then none else some { s with keys := none :: keys }

/-- Notes that a key may begin here. -/
def noteKey? (s : Scanner) : Option Scanner := do
  if !s.keyAllowed then return s
  let isRequired := !s.inFlow && s.indents.head? == some s.place.column
  let s ← s.dropKey?
  let key : PossibleKey := { tokenCount := s.tokens.size, start := s.place, isRequired }
  return { s with keys := some key :: s.keys.drop 1 }

/-- Characters a key may have. -/
def keyLimit : Nat := 1024

/-- Gives up possible keys from earlier lines and from too far back; refused when one must come. -/
def dropStaleKeys? (s : Scanner) : Option Scanner := do
  let keys ← s.keys.mapM fun key =>
    match key with
    | some k =>
      if k.start.line < s.place.line || k.start.index + keyLimit < s.place.index then
        if k.isRequired then none else some none
      else some (some k)
    | none => some none
  return { s with keys }

/-- Skips what stands between tokens. The first argument bounds the lines. -/
def skipGap : (fuel : Nat) → Scanner → Scanner
  | 0, s => s
  | fuel + 1, s =>
    let p := s.place
    let p := if p.column == 0 && p.has '\uFEFF' then p.skip else p
    let tabs := s.inFlow || !s.keyAllowed
    let p := (p.skipWhile fun c => c == ' ' || (tabs && c == '\t')).skipComment
    if p.atBreak then
      skipGap fuel { s with place := p.skipBreak, keyAllowed := s.keyAllowed || !s.inFlow }
    else { s with place := p }

/-- Reads a directive or the mark of a document's start or end: all blocks end before it. -/
def closeAll? (s : Scanner) : Option Scanner := do
  let s ← (s.closeBlocks none).dropKey?
  return { s with keyAllowed := false }

/-- Reads an opening bracket. -/
def openBracket? (s : Scanner) (token : Token) : Option Scanner := do
  let s ← s.noteKey?
  let s := { s with keys := none :: s.keys, keyAllowed := true }
  return s.emit token s.place.skip

/-- Reads a closing bracket. -/
def closeBracket? (s : Scanner) (token : Token) : Option Scanner := do
  let s ← s.dropKey?
  let s := { s with keys := if s.inFlow then s.keys.drop 1 else s.keys, keyAllowed := false }
  return s.emit token s.place.skip

/-- Reads a dash or question mark that opens a block where one may begin. -/
def blockMark? (s : Scanner) (start token : Token) : Option Scanner := do
  if !s.inFlow && !s.keyAllowed then none
  let s := if s.inFlow then s else s.openBlock s.place.column s.tokens.size start
  let s ← s.dropKey?
  let keyAllowed := token == .blockEntry || !s.inFlow
  return { s with keyAllowed }.emit token s.place.skip

/-- Reads a colon: what was read since a possible key began is that key. -/
def valueMark? (s : Scanner) : Option Scanner :=
  match s.keys with
  | some key :: keys =>
    let s := { s with
      tokens := s.tokens.insertIdxIfInBounds key.tokenCount .key
      keys := none :: keys
      keyAllowed := false }
    let s := s.openBlock key.start.column key.tokenCount .blockMappingStart
    some (s.emit .value s.place.skip)
  | _ =>
    if s.inFlow then some ({ s with keyAllowed := false }.emit .value s.place.skip)
    else if s.keyAllowed then
      let s := s.openBlock s.place.column s.tokens.size .blockMappingStart
      some (s.emit .value s.place.skip)
    else none

/-- Reads a token in whose place a key may begin. -/
def keyPart? (s : Scanner) (read : Cursor → Option (Token × Cursor)) : Option Scanner := do
  let s ← s.noteKey?
  let (token, place) ← read s.place
  return { s with keyAllowed := false }.emit token place

/-- Reads a plain scalar. -/
def plainScalar? (s : Scanner) : Option Scanner := do
  let s ← s.noteKey?
  let indent := (s.indents.head?.map (· + 1)).getD 0
  let (text, broken, place) ← plain? s.inFlow indent (s.place.rest.length + 1) s.place
  return { s with keyAllowed := broken }.emit (.scalar (String.ofList text) .plain) place

/-- Reads a block scalar. -/
def blockScalar? (s : Scanner) (isFolded : Bool) : Option Scanner := do
  let s ← s.dropKey?
  let (text, place) ← block? isFolded s.indents.head? s.place.skip
  let style := if isFolded then .folded else .literal
  return { s with keyAllowed := true }.emit (.scalar (String.ofList text) style) place

/-- Reads a scalar in quotes. -/
def quotedScalar? (s : Scanner) (quote : Char) : Option Scanner :=
  s.keyPart? fun p => do
    let (text, place) ← quoted? quote (p.rest.length + 1) p.skip
    return (.scalar (String.ofList text) .quoted, place)

/-- Whether a plain scalar begins with the character at the place. -/
def startsPlain (s : Scanner) (c : Char) : Bool :=
  let p := s.place
  !(isBlank c || isBreak c || "-?:,[]\x7b\x7d#&*!|>'\"%@\x60".contains c)
    || (c == '-' && !(p.ahead 1).any isBlank)
    || (!s.inFlow && (c == '?' || c == ':') && !p.isGap 1)

/-- Reads the token that begins with the character at the place. -/
def token? (s : Scanner) (c : Char) : Option Scanner :=
  let p := s.place
  let mark (token : Token) : Option Scanner := do
    let s ← s.closeAll?
    return s.emit token (Cursor.skipN 3 s.place)
  if p.column == 0 && c == '%' then do
    let s ← s.closeAll?
    let (token, place) ← directive? s.place
    return s.emit token place
  else if p.atMarker '-' then mark .documentStart
  else if p.atMarker '.' then mark .documentEnd
  else if c == '[' then s.openBracket? .flowSequenceStart
  else if c == '\x7b' then s.openBracket? .flowMappingStart
  else if c == ']' then s.closeBracket? .flowSequenceEnd
  else if c == '\x7d' then s.closeBracket? .flowMappingEnd
  else if c == ',' then do
    let s ← s.dropKey?
    return { s with keyAllowed := true }.emit .flowEntry s.place.skip
  else if c == '-' && p.isGap 1 then s.blockMark? .blockSequenceStart .blockEntry
  else if c == '?' && (s.inFlow || p.isGap 1) then s.blockMark? .blockMappingStart .key
  else if c == ':' && (s.inFlow || p.isGap 1) then s.valueMark?
  else if c == '*' then s.keyPart? fun p => (anchorName? p).map fun (n, q) => (.alias n, q)
  else if c == '&' then s.keyPart? fun p => (anchorName? p).map fun (n, q) => (.anchor n, q)
  else if c == '!' then s.keyPart? (tag? s.inFlow)
  else if c == '|' && !s.inFlow then s.blockScalar? false
  else if c == '>' && !s.inFlow then s.blockScalar? true
  else if c == '\x27' || c == '\x22' then s.quotedScalar? c
  else if s.startsPlain c then s.plainScalar?
  else none

/-- Reads all tokens up to the end of the text. The first argument bounds their number. -/
def run? : (fuel : Nat) → Scanner → Option Scanner
  | 0, _ => none
  | fuel + 1, s => do
    let s ← (s.skipGap (s.place.rest.length + 1)).dropStaleKeys?
    let s := s.closeBlocks (some s.place.column)
    match s.place.here with
    | some c => run? fuel (← s.token? c)
    | none => (s.closeBlocks none).dropKey?

end Scanner

/-- The tokens of a text, if it breaks no rule of their form. -/
def tokens? (text : String) : Option (List Token) := do
  let cs := text.toList
  if !cs.all isAllowed then none
  let s ← Scanner.run? (cs.length + 1) { place := { rest := cs } }
  return s.tokens.toList

end SecretBroker.Yaml
