import SecretBroker.Settings
import SecretBroker.Text.Natural

/-!
# Settings from the environment

Nine settings may come from environment variables, which win over a file. A variable that is unset
or blank says nothing. A variable whose value cannot be read stops the loading; of several such the
first in the order of `overrides` is reported.
-/

namespace SecretBroker.Settings

/-- The value of an environment variable, if it is set. -/
abbrev Environment := String → Option String

/-- A variable whose value cannot be read, and why. -/
structure BadVariable where
  name : String
  problem : String
deriving DecidableEq, Repr

/-- A variable and what its value does to settings; the error says why it cannot be read. -/
structure Override where
  name : String
  apply : String → Settings → Except String Settings

/-- A variable whose value is taken as it is. -/
def Override.text (name : String) (set : Settings → String → Settings) : Override :=
  ⟨name, fun value s => .ok (set s value)⟩

/-- A variable whose value is a number of 64 bits, blanks around it aside. -/
def Override.number (name : String) (set : Settings → Nat → Settings) : Override :=
  ⟨name, fun value s =>
    match Text.natural (2 ^ 64) (Text.trimmed value) with
    | .ok n => .ok (set s n)
    | .error e => .error e.message⟩

/-- All variables, in the order in which they are read. -/
def overrides : List Override := [
  ⟨"ISSUER_GATEWAY_MODE", fun value s =>
    match GatewayMode.ofWord value with
    | .ok mode => .ok { s with gateway.mode := mode }
    | .error word => .error (GatewayMode.unknownMessage word)⟩,
  .text "ISSUER_GATEWAY_ADMIN_URL" fun s url => { s with gateway.adminUrl := some url },
  .text "ISSUER_GATEWAY_ADMIN_TOKEN" fun s token => { s with gateway.adminToken := some token },
  .text "ISSUER_CONTROL_PLANE_URL" fun s url => { s with gateway.controlPlaneUrl := some url },
  .text "ISSUER_ACCESS_TOKEN" fun s token => { s with gateway.accessToken := some token },
  .number "ISSUER_CACHE_TTL_SECONDS" fun s n => { s with cache.defaultTtl := .ofSecs n },
  .number "ISSUER_CACHE_MAX_ENTRIES" fun s n => { s with cache.maxEntries := n },
  .text "ISSUER_LOG_LEVEL" fun s level => { s with logging.level := level },
  ⟨"ISSUER_LOG_FORMAT", fun value s =>
    match LogFormat.ofWord value with
    | .ok format => .ok { s with logging.format := format }
    | .error word => .error (LogFormat.unknownMessage word)⟩]

/-- The value of a variable that says something. -/
def Environment.value? (env : Environment) (name : String) : Option String :=
  (env name).filter fun value => !Text.isBlankText value

/-- The settings with what one variable says. -/
def Override.run (env : Environment) (s : Settings) (o : Override) : Except BadVariable Settings :=
  match env.value? o.name with
  | none => .ok s
  | some value => (o.apply value s).mapError fun problem => { name := o.name, problem }

/-- The settings with what the environment says. -/
def withEnvironment (env : Environment) (s : Settings) : Except BadVariable Settings :=
  overrides.foldlM (Override.run env) s

end SecretBroker.Settings
