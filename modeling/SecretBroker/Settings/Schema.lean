import SecretBroker.Duration.Phrase
import SecretBroker.Settings

/-!
# The shape of a settings file

A settings file has four sections, and a section has members. Every format of file is read by this
one description: it says what a member is called, what kind of value it has, and where the value
belongs. All members may be left out.
-/

namespace SecretBroker.Settings

/-- Kinds of values in a settings file. -/
inductive Kind where
  | text
  /-- A text, or nothing. -/
  | optionalText
  /-- A duration as people write it. -/
  | duration
  /-- A whole number below `2 ^ bits`; `word` is what complaints call such numbers. -/
  | natural (bits : Nat) (word : String)
  | mode
  | format
deriving DecidableEq, Repr

/-- The values of a kind. -/
def Kind.Value : Kind → Type
  | .text => String
  | .optionalText => Option String
  | .duration => Duration
  | .natural .. => Nat
  | .mode => GatewayMode
  | .format => LogFormat

/-- A member of a section whose settings are in `σ`. -/
structure Member (σ : Type) where
  name : String
  kind : Kind
  set : σ → kind.Value → σ

/-- A section: its name as a complaint gives it, and its members in order. -/
structure Section (σ : Type) where
  label : String
  members : List (Member σ)

def gatewaySection : Section GatewaySettings where
  label := "GatewayConfig"
  members := [
    ⟨"mode", .mode, fun g mode => { g with mode }⟩,
    ⟨"admin_url", .optionalText, fun g adminUrl => { g with adminUrl }⟩,
    ⟨"admin_token", .optionalText, fun g adminToken => { g with adminToken }⟩,
    ⟨"control_plane_url", .optionalText, fun g controlPlaneUrl => { g with controlPlaneUrl }⟩,
    ⟨"access_token", .optionalText, fun g accessToken => { g with accessToken }⟩,
    ⟨"read_timeout", .duration, fun g readTimeout => { g with readTimeout }⟩,
    ⟨"write_timeout", .duration, fun g writeTimeout => { g with writeTimeout }⟩]

def cacheSection : Section Cache.Policy where
  label := "CacheConfig"
  members := [
    ⟨"default_ttl", .duration, fun c defaultTtl => { c with defaultTtl }⟩,
    ⟨"max_entries", .natural 64 "usize", fun c maxEntries => { c with maxEntries }⟩]

def resilienceSection : Section ResilienceSettings where
  label := "ResilienceConfig"
  members := [
    ⟨"failure_threshold", .natural 32 "u32", fun r failureThreshold => { r with failureThreshold }⟩,
    ⟨"reset_timeout", .duration, fun r resetTimeout => { r with resetTimeout }⟩,
    ⟨"retry_max_attempts", .natural 32 "u32", fun r maxAttempts => { r with maxAttempts }⟩,
    ⟨"retry_base_delay", .duration, fun r baseDelay => { r with baseDelay }⟩]

def loggingSection : Section LogSettings where
  label := "LogSettings"
  members := [
    ⟨"level", .text, fun l level => { l with level }⟩,
    ⟨"format", .format, fun l format => { l with format }⟩]

/-- The name of the whole file as a complaint gives it. -/
def fileLabel : String := "IssuerConfig"

/-- The four sections, each made into what a format of file reads by `read`: it is given the
section's name, its description, its defaults, and where its settings belong. -/
def mapSections {β : Type}
    (read : {σ : Type} → String → Section σ → σ → (Settings → σ → Settings) → β) : List β := [
  read "gateway" gatewaySection {} fun s gateway => { s with gateway },
  read "cache" cacheSection {} fun s cache => { s with cache },
  read "resilience" resilienceSection {} fun s resilience => { s with resilience },
  read "logging" loggingSection {} fun s logging => { s with logging }]

/-- The modes by the words that a file has for them. -/
def modeWords : List String := [GatewayMode.name .admin, GatewayMode.name .cloud]

def formatWords : List String := [LogFormat.name .text, LogFormat.name .json]

end SecretBroker.Settings
