import SecretBroker.Yaml.Scalar

/-!
# YAML tokens

What a YAML text consists of: indicators, scalars, properties of nodes, directives, and the starts
and ends of blocks, which are no characters but follow from indentation.
-/

namespace SecretBroker.Yaml

inductive Token where
  | versionDirective (major minor : Nat)
  | tagDirective (handle expansion : String)
  | documentStart
  | documentEnd
  | blockSequenceStart
  | blockMappingStart
  | blockEnd
  | flowSequenceStart
  | flowSequenceEnd
  | flowMappingStart
  | flowMappingEnd
  | blockEntry
  | flowEntry
  | key
  | value
  | alias (name : String)
  | anchor (name : String)
  | tag (handle suffix : String)
  | scalar (text : String) (style : Style)
deriving DecidableEq, Repr

/-- Whether a character may stand in a tag as it is; more may inside angle brackets or a
directive. -/
def isTagChar (isUri : Bool) (c : Char) : Bool :=
  isWordChar c || ";/?:@&=+$.!~*'()".contains c || (isUri && [',', '[', ']'].contains c)

/-- The bytes of percent escapes from a place on that make up one character: that character, and the
place behind them. -/
def tagEscape? (p : Cursor) : Option (Char × Cursor) := do
  let byte? (p : Cursor) : Option Nat := do
    if !p.has '%' then none
    return 16 * (← Text.hexDigit? (← p.ahead 1)) + (← Text.hexDigit? (← p.ahead 2))
  let first ← byte? p
  let width ← if first < 0x80 then some 1 else if first / 32 = 6 then some 2
    else if first / 16 = 14 then some 3 else if first / 8 = 30 then some 4 else none
  let start := if width = 1 then first else first % 2 ^ (7 - width)
  let (code, p) ← (List.range (width - 1)).foldlM (fun (code, p) _ => do
    let b ← byte? p
    if b / 64 = 2 then some (code * 64 + b % 64, Cursor.skipN 3 p) else none)
    (start, Cursor.skipN 3 p)
  return (Char.ofNat code, p)

/-- The part of a tag from a place on; nothing when an escape is broken. -/
def tagText? (isUri : Bool) : (fuel : Nat) → Cursor → Option (List Char × Cursor)
  | 0, _ => none
  | fuel + 1, p =>
    match p.here with
    | none => some ([], p)
    | some c =>
      if c == '%' then do
        let (d, q) ← tagEscape? p
        let (cs, q) ← tagText? isUri fuel q
        return (d :: cs, q)
      else if isTagChar isUri c then do
        let (cs, q) ← tagText? isUri fuel p.skip
        return (c :: cs, q)
      else some ([], p)

/-- A tag's handle from a place on: an exclamation mark, and perhaps a word and another one. In a
directive only a whole handle will do. -/
def tagHandle? (isDirective : Bool) (p : Cursor) : Option (List Char × Cursor) :=
  if !p.has '!' then none
  else
    let (word, q) := p.skip.takeWhile isWordChar
    if q.has '!' then some ('!' :: word ++ ['!'], q.skip)
    else if isDirective && !word.isEmpty then none
    else some ('!' :: word, q)

/-- A tag that is not empty from a place on, `head` being read already. -/
def tagRest? (isUri : Bool) (head : List Char) (p : Cursor) : Option (List Char × Cursor) := do
  let (cs, q) ← tagText? isUri (p.rest.length + 1) p
  if head.isEmpty && cs.isEmpty then none else return (head.drop 1 ++ cs, q)

/-- The tag from a place on. -/
def tag? (inFlow : Bool) (p : Cursor) : Option (Token × Cursor) := do
  let (handle, suffix, q) ←
    if p.hasAhead 1 '<' then do
      let (suffix, q) ← tagRest? true [] (Cursor.skipN 2 p)
      if q.has '>' then some ([], suffix, q.skip) else none
    else do
      let (handle, q) ← tagHandle? false p
      if 1 < handle.length && handle.getLast? == some '!' then
        let (suffix, q) ← tagRest? false [] q
        some (handle, suffix, q)
      else
        let (suffix, q) ← tagRest? false handle q
        some (if suffix.isEmpty then ([], ['!'], q) else (['!'], suffix, q))
  if q.isGap || (inFlow && q.has ',') then
    return (.tag (String.ofList handle) (String.ofList suffix), q)
  else none

/-- The anchor or alias from a place on. -/
def anchorName? (p : Cursor) : Option (String × Cursor) :=
  let (name, q) := p.skip.takeWhile isWordChar
  let isFollowed := q.isGap || (q.here.map fun c => "?:,]\x7d%@\x60".contains c).getD false
  if name.isEmpty || !isFollowed then none else some (String.ofList name, q)

/-- A number of at most nine digits from a place on. -/
def versionNumber? (p : Cursor) : Option (Nat × Cursor) :=
  let (digits, q) := p.takeWhile Char.isDigit
  if digits.isEmpty || 9 < digits.length then none else some (Text.decimal digits, q)

/-- The value of a directive from behind its name. -/
def directiveValue? (name : String) (p : Cursor) : Option (Token × Cursor) := do
  let p := p.skipWhile isBlank
  if name = "YAML" then
    let (major, p) ← versionNumber? p
    if !p.has '.' then none
    let (minor, p) ← versionNumber? p.skip
    return (.versionDirective major minor, p)
  else if name = "TAG" then
    let (handle, p) ← tagHandle? true p
    if !p.atBlank then none
    let (expansion, p) ← tagRest? true [] (p.skipWhile isBlank)
    if !p.isGap then none
    return (.tagDirective (String.ofList handle) (String.ofList expansion), p)
  else none

/-- The directive from a place on, to the end of its line. -/
def directive? (p : Cursor) : Option (Token × Cursor) := do
  let (name, p) := p.skip.takeWhile isWordChar
  if name.isEmpty || !p.isGap then none
  let (token, p) ← directiveValue? (String.ofList name) p
  let p := (p.skipWhile isBlank).skipComment
  if p.atLineEnd then return (token, p.skipBreak) else none

end SecretBroker.Yaml
