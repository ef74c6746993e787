import SecretBroker.Text.Blank

/-!
# Log formats

Log lines are texts for people or JSON objects. A person may name the first by several words; a
file names each by one.
-/

namespace SecretBroker

inductive LogFormat where
  | text
  | json
deriving DecidableEq, Repr

namespace LogFormat

/-- The one word for the format. -/
def name : LogFormat → String
  | .text => "text"
  | .json => "json"

/-- The format that a person's word means, blanks around it and case aside; otherwise the word as
it was compared. -/
def ofWord (word : String) : Except String LogFormat :=
  let w := Text.lowered (Text.trimmed word)
  if w ∈ ["text", "pretty", "plain"] then .ok .text
  else if w = "json" then .ok .json
  else .error w

/-- The text for a word that means no format. -/
def unknownMessage (word : String) : String :=
  "Invalid log format '" ++ word ++ "' (expected 'text' or 'json')"

/-- The format whose one word this is. -/
def ofName? (s : String) : Option LogFormat :=
  if s = "text" then some .text else if s = "json" then some .json else none

theorem ofName?_name (f : LogFormat) : ofName? f.name = some f := by cases f <;> decide

end LogFormat
end SecretBroker
