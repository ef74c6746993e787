import SecretBroker.Json.Value
import SecretBroker.Text.Quoted

/-!
# Complaints about JSON texts

What stops the reading of a JSON text as a value of a given kind: the text is not JSON, or what
stands in it is not what was expected. `Complaint.message` has the wording, but not the line and
column.
-/

namespace SecretBroker.Json

/-- What was found in a place, as a complaint names it. -/
inductive Found where
  | null
  | bool (b : Bool)
  | number (n : Number)
  | string (s : String)
  | sequence
  | map
deriving DecidableEq, Repr

/-- The words for what was found. -/
def Found.text : Found → String
  | .null => "null"
  | .bool b => "boolean `" ++ toString b ++ "`"
  | .number (.whole i) => "integer `" ++ toString i ++ "`"
  | .number n => "floating point `" ++ n.text ++ "`"
  | .string s => "string " ++ Text.quoted s
  | .sequence => "sequence"
  | .map => "map"

inductive Complaint where
  /-- The text breaks the rules of JSON. -/
  | malformed
  /-- Something of another kind than expected. -/
  | invalidType (found : Found) (expected : String)
  /-- Something of the right kind that is out of bounds. -/
  | invalidValue (found : Found) (expected : String)
  /-- A sequence that ends too early. -/
  | invalidLength (length : Nat) (expected : String)
  | missingField (name : String)
  | duplicateField (name : String)
  /-- A word that is none of those allowed. -/
  | unknownVariant (found : String) (expected : List String)
deriving DecidableEq, Repr

/-- The words for a choice among names. -/
def choiceText (names : List String) : String :=
  match names.map fun n => "`" ++ n ++ "`" with
  | [] => "there are no variants"
  | [a] => a
  | [a, b] => a ++ " or " ++ b
  | many => "one of " ++ ", ".intercalate many

/-- The text of a complaint. It leaves out which rule of JSON is broken, and where it arose, which a
full text tells at its end (" at line 1 column 2"). -/
def Complaint.message : Complaint → String
  | .malformed => "malformed JSON"
  | .invalidType found expected => "invalid type: " ++ found.text ++ ", expected " ++ expected
  | .invalidValue found expected => "invalid value: " ++ found.text ++ ", expected " ++ expected
  | .invalidLength length expected =>
    "invalid length " ++ toString length ++ ", expected " ++ expected
  | .missingField name => "missing field `" ++ name ++ "`"
  | .duplicateField name => "duplicate field `" ++ name ++ "`"
  | .unknownVariant found expected =>
    "unknown variant `" ++ found ++ "`, expected " ++ choiceText expected

end SecretBroker.Json
