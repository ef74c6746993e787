import SecretBroker.Json.Complaint
import SecretBroker.Json.Lexeme

/-!
# Reading JSON as expected values

A `Reader` takes a value of one kind from the start of a text. It reads no further than it must, so
the first thing in the text that does not fit is the one complained about: a value of another kind,
or text that is not JSON. `decode` reads a whole text.
-/

namespace SecretBroker.Json

/-- Reads a value from the start of a text; gives the value and what follows it. -/
abbrev Reader (α : Type) := List Char → Except Complaint (α × List Char)

/-- What was found, or the complaint about text that breaks the rules. -/
def orMalformed {α : Type} : Option α → Except Complaint α
  | some a => .ok a
  | none => .error .malformed

/-- What a value at the start of the text is, as far as a complaint needs to know. Of an array or an
object only the bracket is read. -/
def found? (cs : List Char) : Option Found :=
  match cs with
  | 'n' :: cs => (afterLiteral? ['u', 'l', 'l'] cs).map fun _ => .null
  | 't' :: cs => (afterLiteral? ['r', 'u', 'e'] cs).map fun _ => .bool true
  | 'f' :: cs => (afterLiteral? ['a', 'l', 's', 'e'] cs).map fun _ => .bool false
  | '\x22' :: cs => (string? cs).map fun (s, _) => .string s
  | '[' :: _ => some .sequence
  | '\x7b' :: _ => some .map
  | c :: cs => if c == '-' || c.isDigit then (number? (c :: cs)).map fun (n, _) => .number n else none
  | [] => none

/-- The complaint about a value of another kind than expected. -/
def mismatch (expected : String) (cs : List Char) : Complaint :=
  match found? cs with
  | some found => .invalidType found expected
  | none => .malformed

namespace Reader

/-- A text. -/
def text : Reader String := fun cs =>
  match skipSpace cs with
  | '\x22' :: cs => orMalformed (string? cs)
  | cs => .error (mismatch "a string" cs)

/-- A truth value. -/
def bool : Reader Bool := fun cs =>
  match skipSpace cs with
  | 't' :: cs => (orMalformed (afterLiteral? ['r', 'u', 'e'] cs)).map (true, ·)
  | 'f' :: cs => (orMalformed (afterLiteral? ['a', 'l', 's', 'e'] cs)).map (false, ·)
  | cs => .error (mismatch "a boolean" cs)

/-- A whole number from zero below `2 ^ bits`; `kind` is the word for such numbers. -/
def natural (bits : Nat) (kind : String) : Reader Nat := fun cs =>
  match skipSpace cs with
  | c :: cs =>
    if c == '-' || c.isDigit then do
      let (n, rest) ← orMalformed (number? (c :: cs))
      match n with
      | .whole i =>
        if 0 ≤ i ∧ i < 2 ^ bits then .ok (i.toNat, rest) else .error (.invalidValue (.number n) kind)
      | .binary .. => .error (.invalidType (.number n) kind)
    else .error (mismatch kind (c :: cs))
  | [] => .error .malformed

/-- A value, or nothing for the null value. -/
def optional {α : Type} (value : Reader α) : Reader (Option α) := fun cs =>
  match skipSpace cs with
  | 'n' :: cs => (orMalformed (afterLiteral? ['u', 'l', 'l'] cs)).map (none, ·)
  | cs => (value cs).map fun (a, rest) => (some a, rest)

/-- A text that denotes a value; `kind` is the word for such values. -/
def denoting {α : Type} (kind : String) (value : String → Option α) : Reader α := fun cs =>
  match skipSpace cs with
  | '\x22' :: cs => do
    let (s, rest) ← orMalformed (string? cs)
    match value s with
    | some a => .ok (a, rest)
    | none => .error (.invalidValue (.string s) kind)
  | cs => .error (mismatch kind cs)

/-- The null value. -/
def nothing : Reader Unit := fun cs =>
  match skipSpace cs with
  | 'n' :: cs => (orMalformed (afterLiteral? ['u', 'l', 'l'] cs)).map ((), ·)
  | cs => .error (mismatch "unit" cs)

/-- One of several named values, given by its name alone or as the name of the null value in an
object of one entry. -/
def choice {α : Type} (names : List String) (named : String → Option α) : Reader α :=
  let name : Reader α := fun cs => do
    let (s, rest) ← match skipSpace cs with
      | '\x22' :: cs => orMalformed (string? cs)
      | cs => .error (mismatch "variant identifier" cs)
    match named s with
    | some a => .ok (a, rest)
    | none => .error (.unknownVariant s names)
  fun cs =>
    match skipSpace cs with
    | '\x22' :: cs => name ('\x22' :: cs)
    | '\x7b' :: cs => do
      let (a, rest) ← name cs
      match skipSpace rest with
      | ':' :: rest =>
        let (_, rest) ← nothing rest
        match skipSpace rest with
        | '\x7d' :: rest => .ok (a, rest)
        | _ => .error .malformed
      | _ => .error .malformed
    | _ => .error .malformed

/-- One item of an array, and the items that `more` reads after it. -/
def itemThen {α : Type} (item : Reader α) (more : Reader (List α)) : Reader (List α) := fun cs => do
  let (a, rest) ← item cs
  let (as, rest) ← more rest
  return (a :: as, rest)

/-- The items of an array after its first bracket or after an item. The first arguments bound their
number and say whether the next item is the first. -/
def items {α : Type} (item : Reader α) : (fuel : Nat) → (isFirst : Bool) → Reader (List α)
  | 0, _ => fun _ => .error .malformed
  | fuel + 1, isFirst => fun cs =>
    match isFirst, skipSpace cs with
    | _, ']' :: rest => .ok ([], rest)
    | true, cs => itemThen item (items item fuel false) cs
    | false, ',' :: cs =>
      match skipSpace cs with
      | ']' :: _ => .error .malformed
      | cs => itemThen item (items item fuel false) cs
    | false, _ => .error .malformed

/-- An array of values of one kind. -/
def list {α : Type} (item : Reader α) : Reader (List α) := fun cs =>
  match skipSpace cs with
  | '[' :: cs => items item (cs.length + 1) true cs
  | cs => .error (mismatch "a sequence" cs)

end Reader

/-- The value that a whole text denotes. -/
def decode {α : Type} (value : Reader α) (text : String) : Except Complaint α := do
  let (a, rest) ← value text.toList
  if (skipSpace rest).isEmpty then .ok a else .error .malformed

/-- Levels of brackets that a value may have. -/
def depthLimit : Nat := 127

mutual

/-- Any value. The first argument bounds the steps, the second the levels of brackets. -/
def anyValue : (fuel depth : Nat) → List Char → Option (Value × List Char)
  | 0, _, _ => none
  | fuel + 1, depth, cs =>
    match skipSpace cs with
    | 'n' :: cs => (afterLiteral? ['u', 'l', 'l'] cs).map (.null, ·)
    | 't' :: cs => (afterLiteral? ['r', 'u', 'e'] cs).map (.bool true, ·)
    | 'f' :: cs => (afterLiteral? ['a', 'l', 's', 'e'] cs).map (.bool false, ·)
    | '\x22' :: cs => (string? cs).map fun (s, rest) => (.string s, rest)
    | '[' :: cs =>
      match depth, skipSpace cs with
      | 0, _ => none
      | _ + 1, ']' :: rest => some (.array [], rest)
      | depth + 1, cs => (anyItems fuel depth cs).map fun (vs, rest) => (.array vs, rest)
    | '\x7b' :: cs =>
      match depth, skipSpace cs with
      | 0, _ => none
      | _ + 1, '\x7d' :: rest => some (.object [], rest)
      | depth + 1, cs => (anyEntries fuel depth cs).map fun (es, rest) => (.object es, rest)
    | c :: cs =>
      if c == '-' || c.isDigit then (number? (c :: cs)).map fun (n, rest) => (.number n, rest)
      else none
    | [] => none

/-- One item of an array or more, and the closing bracket. -/
def anyItems : (fuel depth : Nat) → List Char → Option (List Value × List Char)
  | 0, _, _ => none
  | fuel + 1, depth, cs => do
    let (v, rest) ← anyValue fuel depth cs
    match skipSpace rest with
    | ']' :: rest => some ([v], rest)
    | ',' :: rest =>
      let (vs, rest) ← anyItems fuel depth rest
      some (v :: vs, rest)
    | _ => none

/-- One entry of an object or more, and the closing bracket. -/
def anyEntries : (fuel depth : Nat) → List Char → Option (List (String × Value) × List Char)
  | 0, _, _ => none
  | fuel + 1, depth, cs =>
    match skipSpace cs with
    | '\x22' :: cs => do
      let (key, rest) ← string? cs
      match skipSpace rest with
      | ':' :: rest =>
        let (v, rest) ← anyValue fuel depth rest
        match skipSpace rest with
        | '\x7d' :: rest => some ([(key, v)], rest)
        | ',' :: rest =>
          let (es, rest) ← anyEntries fuel depth rest
          some ((key, v) :: es, rest)
        | _ => none
      | _ => none
    | _ => none

end

/-- Any value at all. -/
def Reader.any : Reader Value := fun cs =>
  orMalformed (anyValue (2 * cs.length + 2) depthLimit cs)

end SecretBroker.Json
