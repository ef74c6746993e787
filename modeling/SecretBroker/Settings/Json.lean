import SecretBroker.Json.Record
import SecretBroker.Settings.Schema

/-!
# Settings in JSON
-/

namespace SecretBroker.Settings
open SecretBroker.Json (Reader Field Record.reader)

/-- How a value of a kind is read from a JSON text. -/
def Kind.reader : (kind : Kind) → Reader kind.Value
  | .text => Reader.text
  | .optionalText => Reader.optional Reader.text
  | .duration => Reader.denoting "a duration" Duration.ofPhrase?
  | .natural bits word => Reader.natural bits word
  | .mode => Reader.choice modeWords GatewayMode.ofName?
  | .format => Reader.choice formatWords LogFormat.ofName?

/-- A section of a JSON text, read into its defaults. -/
def Section.reader {σ : Type} (s : Section σ) (defaults : σ) : Reader σ :=
  Record.reader s.label (s.members.map fun m => .optional m.name m.kind.reader m.set) defaults

/-- The gateway's settings from a JSON text. -/
def gatewayReader : Reader GatewaySettings := gatewaySection.reader {}

/-- Settings from a JSON text. -/
def jsonReader : Reader Settings :=
  Record.reader fileLabel
    (mapSections fun name section_ defaults set =>
      Field.optional name (section_.reader defaults) set) {}

end SecretBroker.Settings
