import SecretBroker.Gateway.Error
import SecretBroker.Text.Blank
import SecretBroker.Url.Parser

/-!
# Addresses at the gateway

A gateway is known by a base URL, and what it keeps by names in a path below that URL.
-/

namespace SecretBroker.Address

/-- A text without the slashes at its end. -/
def withoutSlashes (text : String) : String :=
  String.ofList (Text.dropEndWhile (· == '/') text.toList)

/-- The URL that a base text means, blanks around it and slashes at its end aside. -/
def ofBase (base : String) : Except GatewayError Url :=
  (Url.parse (withoutSlashes (Text.trimmed base))).mapError fun e =>
    .configuration ("Invalid gateway URL '" ++ base ++ "': " ++ e.message)

/-- The URL of what is known by these names below a base. -/
def below (base : String) (names : List String) : Except GatewayError Url := do
  let u ← ofBase base
  match u.join? names with
  | some u => .ok u
  | none => .error (.configuration ("Gateway URL cannot be a base: " ++ base))

end SecretBroker.Address
