import SecretBroker.Toml.Lexeme

/-!
# TOML documents

The lines of a document one after the other: headers say which table the entries after them belong
to. Nothing is said twice: neither a key nor a table.
-/

namespace SecretBroker.Toml

/-- Levels that values may be nested and names a dotted key may have. -/
def depthLimit : Nat := 80

/-- Whether a character may stand in a key without quotes. -/
def isKeyChar (c : Char) : Bool := c.isAlphanum || c == '-' || c == '_'

/-- One name of a key. -/
def name? : Reader String := fun cs =>
  match cs with
  | c :: rest =>
    if c == '\x22' || c == '\x27' then do
      let (ds, rest) ← line? c (rest.length + 1) rest
      return (String.ofList ds, rest)
    else
      let name := cs.takeWhile isKeyChar
      if name.isEmpty then none else some (String.ofList name, cs.dropWhile isKeyChar)
  | [] => none

/-- The names of a key, blanks around each, with points between them. -/
def key? : (fuel : Nat) → Reader (List String)
  | 0, _ => none
  | fuel + 1, cs => do
    let (name, rest) ← name? (skipBlanks cs)
    match skipBlanks rest with
    | '.' :: rest =>
      let (names, rest) ← key? fuel rest
      return (name :: names, rest)
    | rest => return ([name], rest)

/-- A key with as many names as allowed. -/
def dottedKey? : Reader (List String) := key? depthLimit

/-- What follows blanks, line breaks and comments between the items of an array. -/
def skipLines : (fuel : Nat) → List Char → List Char
  | 0, cs => cs
  | fuel + 1, cs =>
    let rest := skipComment (skipBlanks cs)
    match afterBreak? rest with
    | some rest => skipLines fuel rest
    | none => rest

/-- What follows the end of a line, behind blanks and perhaps a comment. -/
def afterLine? (cs : List Char) : Option (List Char) :=
  match skipComment (skipBlanks cs) with
  | [] => some []
  | cs => afterBreak? cs

mutual

/-- Any value. The arguments bound the steps and the levels. -/
def value? : (fuel depth : Nat) → Reader Value
  | 0, _, _ => none
  | fuel + 1, depth, cs =>
    match cs with
    | [] => none
    | c :: rest =>
      if c == '\x22' || c == '\x27' then (string? cs).map fun (s, rest) => (.text s, rest)
      else if c == '[' then
        match depth with
        | 0 => none
        | depth + 1 => (items? fuel depth rest).map fun (vs, rest) => (.array vs, rest)
      else if c == '\x7b' then
        match depth with
        | 0 => none
        | depth + 1 =>
          match skipBlanks rest with
          | '\x7d' :: rest => some (.table .inline [], rest)
          | rest => (members? fuel depth [] rest).map fun (es, rest) => (.table .inline es, rest)
      else if c == '+' || c == '-' || c.isDigit then
        (dateTime? cs).or ((float? cs).or (integer? cs))
      else
        match cs with
        | 't' :: 'r' :: 'u' :: 'e' :: rest => some (.boolean true, rest)
        | 'f' :: 'a' :: 'l' :: 's' :: 'e' :: rest => some (.boolean false, rest)
        | 'i' :: _ | 'n' :: _ => float? cs
        | _ => none

/-- The items of an array behind its bracket or a comma, and what follows the closing bracket. -/
def items? : (fuel depth : Nat) → Reader (List Value)
  | 0, _, _ => none
  | fuel + 1, depth, cs =>
    match skipLines cs.length cs with
    | ']' :: rest => some ([], rest)
    | cs => do
      let (v, rest) ← value? fuel depth cs
      match skipLines rest.length rest with
      | ']' :: rest => return ([v], rest)
      | ',' :: rest =>
        let (vs, rest) ← items? fuel depth rest
        return (v :: vs, rest)
      | _ => none

/-- The entries of a table in braces from a key on, put to those before, and what follows the
closing brace. -/
def members? : (fuel depth : Nat) → Entries → Reader Entries
  | 0, _, _, _ => none
  | fuel + 1, depth, es, cs => do
    let (names, rest) ← dottedKey? cs
    let (v, rest) ← value? fuel depth (skipBlanks (← after? '=' rest))
    let es ← es.put? names v .inline
    match skipBlanks rest with
    | '\x7d' :: rest => return (es, rest)
    | ',' :: rest => members? fuel depth es rest
    | _ => none

end

/-- A document as far as it is read: all entries, and the path of the table that further ones
belong to. -/
structure Reading where
  entries : Entries := []
  path : List String := []

/-- One line behind its blanks, and what follows its end. -/
def statement? (r : Reading) (cs : List Char) : Option (Reading × List Char) :=
  match cs with
  | '[' :: '[' :: rest => do
    let (names, rest) ← dottedKey? rest
    let rest ← after? ']' (← after? ']' rest)
    return ({ entries := ← r.entries.append? names, path := names }, ← afterLine? rest)
  | '[' :: rest => do
    let (names, rest) ← dottedKey? rest
    let rest ← after? ']' rest
    return ({ entries := ← r.entries.open? names, path := names }, ← afterLine? rest)
  | cs => do
    let (names, rest) ← dottedKey? cs
    let rest := skipBlanks (← after? '=' rest)
    let (v, rest) ← value? (2 * rest.length + 2) (depthLimit - 1) rest
    let rest ← afterLine? rest
    let entries ← r.entries.inside? (fun es => es.put? names v .headed) r.path
    return ({ r with entries }, rest)

/-- All lines. The first argument bounds their number. -/
def statements? : (fuel : Nat) → Reading → List Char → Option Reading
  | 0, _, _ => none
  | fuel + 1, r, cs =>
    match skipLines cs.length cs with
    | [] => some r
    | cs => do
      let (r, rest) ← statement? r cs
      statements? fuel r rest

/-- The entries of a document. -/
def document? (text : String) : Option Entries := do
  let cs := match text.toList with
    | '\uFEFF' :: cs => cs
    | cs => cs
  return (← statements? (cs.length + 1) {} cs).entries

end SecretBroker.Toml
