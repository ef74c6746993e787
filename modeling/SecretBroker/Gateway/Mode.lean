import SecretBroker.Text.Blank

/-!
# Gateway modes

A gateway is reached through its own administrative interface or through the control plane of a
hosting service. A person may name a mode by several words; a file names it by one.
-/

namespace SecretBroker

inductive GatewayMode where
  | admin
  | cloud
deriving DecidableEq, Repr

namespace GatewayMode

/-- The one word for the mode. -/
def name : GatewayMode → String
  | .admin => "admin"
  | .cloud => "cloud"

/-- The mode that a person's word means, blanks around it and case aside; otherwise the word as it
was compared. -/
def ofWord (word : String) : Except String GatewayMode :=
  let w := Text.lowered (Text.trimmed word)
  if w ∈ ["admin", "api", "direct"] then .ok .admin
  else if w ∈ ["cloud", "konnect"] then .ok .cloud
  else .error w

/-- The text for a word that means no mode. -/
def unknownMessage (word : String) : String :=
  "unknown gateway mode '" ++ word ++ "' (expected 'admin' or 'cloud')"

/-- The mode whose one word this is. -/
def ofName? (s : String) : Option GatewayMode :=
  if s = "admin" then some .admin else if s = "cloud" then some .cloud else none

theorem ofName?_name (m : GatewayMode) : ofName? m.name = some m := by cases m <;> decide

end GatewayMode
end SecretBroker
