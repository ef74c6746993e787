import SecretBroker.Json.Value

/-!
# JSON texts

A value as text, on one line without blanks (`compact`) or spread over lines with two blanks of
indentation for each level (`pretty`). In a string the quote, the backslash and the control
characters are escaped, and nothing else is.
-/

namespace SecretBroker.Json

/-- How one character is written in a string. -/
def escaped (c : Char) : List Char :=
  if c == '\x22' then ['\\', '\x22']
  else if c == '\\' then ['\\', '\\']
  else if c == '\n' then ['\\', 'n']
  else if c == '\r' then ['\\', 'r']
  else if c == '\t' then ['\\', 't']
  else if c == '\x08' then ['\\', 'b']
  else if c == '\x0c' then ['\\', 'f']
  else if c.toNat < 0x20 then
    ['\\', 'u', '0', '0', Nat.digitChar (c.toNat / 16), Nat.digitChar (c.toNat % 16)]
  else [c]

/-- A string with its quotes. -/
def quotedChars (s : String) : List Char :=
  '\x22' :: s.toList.flatMap escaped ++ ['\x22']

mutual

/-- The value on one line. -/
def compactChars : Value → List Char
  | .null => "null".toList
  | .bool b => (toString b).toList
  | .number n => n.text.toList
  | .string s => quotedChars s
  | .array items => '[' :: compactItems items ++ [']']
  | .object entries => '\x7b' :: compactEntries entries ++ ['\x7d']

def compactItems : List Value → List Char
  | [] => []
  | [v] => compactChars v
  | v :: w :: rest => compactChars v ++ ',' :: compactItems (w :: rest)

def compactEntries : List (String × Value) → List Char
  | [] => []
  | [(k, v)] => quotedChars k ++ ':' :: compactChars v
  | (k, v) :: e :: rest => quotedChars k ++ ':' :: compactChars v ++ ',' :: compactEntries (e :: rest)

end

/-- A line break and the blanks of a level. -/
def newline (level : Nat) : List Char := '\n' :: List.replicate (2 * level) ' '

mutual

/-- The value over several lines, as it stands at a level. -/
def prettyChars (level : Nat) : Value → List Char
  | .array [] => ['[', ']']
  | .object [] => ['\x7b', '\x7d']
  | .array (v :: rest) =>
    '[' :: newline (level + 1) ++ prettyItems (level + 1) (v :: rest) ++ newline level ++ [']']
  | .object (e :: rest) =>
    '\x7b' :: newline (level + 1) ++ prettyEntries (level + 1) (e :: rest) ++ newline level
      ++ ['\x7d']
  | v => compactChars v

def prettyItems (level : Nat) : List Value → List Char
  | [] => []
  | [v] => prettyChars level v
  | v :: w :: rest => prettyChars level v ++ ',' :: newline level ++ prettyItems level (w :: rest)

def prettyEntries (level : Nat) : List (String × Value) → List Char
  | [] => []
  | [(k, v)] => quotedChars k ++ ':' :: ' ' :: prettyChars level v
  | (k, v) :: e :: rest =>
    quotedChars k ++ ':' :: ' ' :: prettyChars level v ++ ',' :: newline level
      ++ prettyEntries level (e :: rest)

end

/-- The text of a value on one line. -/
def Value.compact (v : Value) : String := String.ofList (compactChars v)

/-- The text of a value over several lines. -/
def Value.pretty (v : Value) : String := String.ofList (prettyChars 0 v)

end SecretBroker.Json
