/-!
# Places in a YAML text

A place is what is left of the text, with the line and column where it begins. Indentation is a
matter of columns, so every step through the text keeps count of them.
-/

namespace SecretBroker.Yaml

/-- A place in a text: what follows, and how many lines, columns and characters came before. -/
structure Cursor where
  rest : List Char
  line : Nat := 0
  column : Nat := 0
  index : Nat := 0
deriving DecidableEq, Repr

/-- Whether the character breaks a line. -/
def isBreak (c : Char) : Bool :=
  c == '\r' || c == '\n' || c == '\u0085' || c == '\u2028' || c == '\u2029'

/-- Whether the character is a space or a tab. -/
def isBlank (c : Char) : Bool := c == ' ' || c == '\t'

/-- Whether the character may stand in a name. -/
def isWordChar (c : Char) : Bool := c.isAlphanum || c == '_' || c == '-'

/-- Whether a YAML text may hold the character. -/
def isAllowed (c : Char) : Bool :=
  let n := c.toNat
  n == 0x09 || n == 0x0A || n == 0x0D || (0x20 ≤ n && n ≤ 0x7E) || n == 0x85
    || (0xA0 ≤ n && n ≤ 0xD7FF) || (0xE000 ≤ n && n ≤ 0xFFFD) || 0x10000 ≤ n

namespace Cursor

/-- The character `n` places on. -/
def ahead (p : Cursor) (n : Nat) : Option Char := p.rest[n]?

/-- The character at the place. -/
def here (p : Cursor) : Option Char := p.rest.head?

/-- Whether the character `n` places on is this one. -/
def hasAhead (p : Cursor) (n : Nat) (c : Char) : Bool := p.ahead n == some c

def has (p : Cursor) (c : Char) : Bool := p.here == some c

def atEnd (p : Cursor) : Bool := p.rest.isEmpty

/-- Whether a blank, a line break or the end of the text is `n` places on. -/
def isGap (p : Cursor) (n : Nat := 0) : Bool :=
  match p.ahead n with
  | some c => isBlank c || isBreak c
  | none => true

def atBlank (p : Cursor) : Bool := (p.here.map isBlank).getD false

def atBreak (p : Cursor) : Bool := (p.here.map isBreak).getD false

/-- Whether the line or the text ends at the place. -/
def atLineEnd (p : Cursor) : Bool := p.atEnd || p.atBreak

/-- The place behind one character of a line. -/
def skip (p : Cursor) : Cursor :=
  match p.rest with
  | [] => p
  | _ :: rest => { p with rest, column := p.column + 1, index := p.index + 1 }

/-- The place behind `n` characters of a line. -/
def skipN : Nat → Cursor → Cursor
  | 0, p => p
  | n + 1, p => skipN n p.skip

/-- The place behind a line break; a return and a feed are one break. -/
def skipBreak (p : Cursor) : Cursor :=
  let beyond (rest : List Char) (n : Nat) : Cursor :=
    { rest, line := p.line + 1, column := 0, index := p.index + n }
  match p.rest with
  | '\r' :: '\n' :: rest => beyond rest 2
  | c :: rest => if isBreak c then beyond rest 1 else p
  | [] => p

/-- What a line break at the place stands for. -/
def breakText (p : Cursor) : List Char :=
  match p.here with
  | some c => if c == '\u2028' || c == '\u2029' then [c] else if isBreak c then ['\n'] else []
  | none => []

/-- The characters from the place on that pass a test, and the place behind them. -/
def takeWhile (p : Cursor) (test : Char → Bool) : List Char × Cursor :=
  let taken := p.rest.takeWhile test
  (taken, skipN taken.length p)

/-- The place behind the characters that pass a test. -/
def skipWhile (p : Cursor) (test : Char → Bool) : Cursor := (p.takeWhile test).2

/-- The place at the end of a comment, if one begins here. -/
def skipComment (p : Cursor) : Cursor :=
  if p.has '#' then p.skipWhile fun c => !isBreak c else p

/-- Whether a line begins here with the three characters that mark a document's start or end. -/
def atMarker (p : Cursor) (c : Char) : Bool :=
  p.column == 0 && p.has c && p.hasAhead 1 c && p.hasAhead 2 c && p.isGap 3

/-- Whether a document begins or ends here. -/
def atDocumentMarker (p : Cursor) : Bool := p.atMarker '-' || p.atMarker '.'

end Cursor
end SecretBroker.Yaml
