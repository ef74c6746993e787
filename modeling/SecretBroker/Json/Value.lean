import SecretBroker.Decimal.Layout

/-!
# JSON values

A JSON value with the entries of an object in the order of the text. A number is whole, or a
binary number with a sign. Looking a name up finds its last entry.
-/

namespace SecretBroker.Json

inductive Number where
  | whole (i : Int)
  | binary (negative : Bool) (size : Decimal.Binary64)
deriving DecidableEq, Repr

/-- The text of a number; a binary one always has a point or a power of ten. -/
def Number.text : Number → String
  | .whole i => toString i
  | .binary negative size => (if negative then "-" else "") ++ size.shortest.general

inductive Value where
  | null
  | bool (b : Bool)
  | number (n : Number)
  | string (s : String)
  | array (items : List Value)
  | object (entries : List (String × Value))
deriving Repr

namespace Value

/-- The value under a name: that of the last entry with it. -/
def get? (v : Value) (name : String) : Option Value :=
  match v with
  | .object entries => entries.reverse.lookup name
  | _ => none

/-- The text, of a value that is one. -/
def string? : Value → Option String
  | .string s => some s
  | _ => none

/-- The items, of a value that is an array. -/
def array? : Value → Option (List Value)
  | .array items => some items
  | _ => none

/-- A whole number as a value. -/
def ofNat (n : Nat) : Value := .number (.whole n)

/-- A text or, for none, the null value. -/
def ofOption : Option String → Value
  | some s => .string s
  | none => .null

end Value
end SecretBroker.Json
