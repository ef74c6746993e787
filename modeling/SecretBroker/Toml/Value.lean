/-!
# TOML tables

A TOML document is a table of values. A table can come about in several ways, and how it came about
says whether it may still grow: one with a header has all its entries below the header, one that a
longer header or a dotted key only passed through may get more, and one in braces is closed.
-/

namespace SecretBroker.Toml

/-- How a table came about. -/
inductive Form where
  /-- It has a header. -/
  | headed
  /-- A longer header passed through it. -/
  | implied
  /-- A dotted key passed through it. -/
  | dotted
  /-- It stands in braces. -/
  | inline
deriving DecidableEq, Repr

inductive Value where
  | text (s : String)
  | integer (i : Int)
  | float
  | boolean (b : Bool)
  | dateTime
  | array (items : List Value)
  | table (form : Form) (entries : List (String × Value))
  /-- Tables under one header each, of the same name. -/
  | tables (items : List (List (String × Value)))
deriving Repr

abbrev Entries := List (String × Value)

namespace Entries

/-- The entries with the value under a key replaced. -/
def replace (key : String) (v : Value) (es : Entries) : Entries :=
  es.map fun (k, old) => if k = key then (k, v) else (k, old)

/-- The entries with a new key; refused when the key is there. -/
def add? (key : String) (v : Value) (es : Entries) : Option Entries :=
  if (es.lookup key).isSome then none else some (es ++ [(key, v)])

/-- The entries of the last of several tables changed. -/
def inLast? (items : List Entries) (change : Entries → Option Entries) : Option Value := do
  let last ← items.getLast?
  return .tables (items.dropLast ++ [← change last])

/-- The entries with a value put under a dotted key, whose tables spring up as needed. They must
not have a header or stand in braces, and the last one must have sprung from a dotted key. -/
def putDotted? (key : String) (v : Value) (isDotted : Bool) : (form : Form) → (path : List String) →
    Entries → Option Entries
  | form, [], es => if (form == .dotted) == isDotted then add? key v es else none
  | _, k :: path, es =>
    match es.lookup k with
    | none => do add? k (.table .dotted (← putDotted? key v isDotted .dotted path [])) es
    | some (.table form sub) =>
      if form = .implied ∨ form = .dotted then do
        return replace k (.table form (← putDotted? key v isDotted form path sub)) es
      else none
    | some (.tables items) => do
      return replace k (← inLast? items (putDotted? key v isDotted .headed path)) es
    | some _ => none

/-- The entries with a value under the key that a list of names writes. -/
def put? (names : List String) (v : Value) (form : Form) (es : Entries) : Option Entries := do
  putDotted? (← names.getLast?) v (1 < names.length) form names.dropLast es

/-- The entries with those of the table at a path changed. Tables on the way spring up as needed;
of several tables of one name the last is meant. -/
def inside? (change : Entries → Option Entries) : (path : List String) → Entries → Option Entries
  | [], es => change es
  | k :: path, es =>
    match es.lookup k with
    | none => do return es ++ [(k, .table .implied (← inside? change path []))]
    | some (.table form sub) =>
      if form = .inline then none
      else do return replace k (.table form (← inside? change path sub)) es
    | some (.tables items) => do return replace k (← inLast? items (inside? change path)) es
    | some _ => none

/-- The entries with a table for a header. Only one that a longer header passed through may be
there. -/
def open? (names : List String) (es : Entries) : Option Entries := do
  let key ← names.getLast?
  es.inside? (fun es =>
    match es.lookup key with
    | none => some (es ++ [(key, .table .headed [])])
    | some (.table .implied sub) => some (es.replace key (.table .headed sub))
    | some _ => none) names.dropLast

/-- The entries with one more table for a header in double brackets. -/
def append? (names : List String) (es : Entries) : Option Entries := do
  let key ← names.getLast?
  es.inside? (fun es =>
    match es.lookup key with
    | none => some (es ++ [(key, .tables [[]])])
    | some (.tables items) => some (es.replace key (.tables (items ++ [[]])))
    | some _ => none) names.dropLast

end Entries
end SecretBroker.Toml
