import SecretBroker.Cache
import SecretBroker.Gateway.Mode
import SecretBroker.Log.Format
import SecretBroker.Retry
import SecretBroker.Url.Parser

/-!
# Settings

What a person decides: how to reach the gateway, how long secrets stay in the cache, when to give
an operation up and when to try again, and what to log. Everything has a default but the gateway's
address. `Settings.check` says what is wrong with settings: that the mode lacks its URL or its token,
that a URL cannot be read or is not one of HTTP, or that a limit is zero or too long.
-/

namespace SecretBroker

/-- How to reach the gateway. -/
structure GatewaySettings where
  mode : GatewayMode := .admin
  adminUrl : Option String := none
  adminToken : Option String := none
  controlPlaneUrl : Option String := none
  accessToken : Option String := none
  readTimeout : Duration := .ofSecs 5
  writeTimeout : Duration := .ofSecs 10
deriving DecidableEq, Repr

/-- When an operation is given up, and how often and after what delay it is tried again. -/
structure ResilienceSettings where
  failureThreshold : Nat := 5
  resetTimeout : Duration := .ofSecs 30
  maxAttempts : Nat := 2
  baseDelay : Duration := .ofMillis 100
deriving DecidableEq, Repr

structure LogSettings where
  level : String := "info"
  format : LogFormat := .text
deriving DecidableEq, Repr

structure Settings where
  gateway : GatewaySettings := {}
  cache : Cache.Policy := {}
  resilience : ResilienceSettings := {}
  logging : LogSettings := {}
deriving DecidableEq, Repr

namespace GatewaySettings

/-- The gateway's URL in a mode. -/
def urlIn (g : GatewaySettings) : GatewayMode → Option String
  | .admin => g.adminUrl
  | .cloud => g.controlPlaneUrl

/-- The gateway's URL. -/
def url (g : GatewaySettings) : Option String := g.urlIn g.mode

/-- The token that the gateway is shown. -/
def token (g : GatewaySettings) : Option String :=
  match g.mode with
  | .admin => g.adminToken
  | .cloud => g.accessToken

end GatewaySettings

/-- The name of the setting with the gateway's URL in a mode. -/
def urlSetting : GatewayMode → String
  | .admin => "gateway.admin_url"
  | .cloud => "gateway.control_plane_url"

/-- What is wrong with settings. -/
inductive SettingsFault where
  | urlMissing (mode : GatewayMode)
  | urlBad (mode : GatewayMode) (cause : Url.UrlError)
  | schemeUnsupported (mode : GatewayMode) (scheme : String)
  | tokenMissing
  | timeoutZero
  | maxEntriesZero
  | ttlZero
  | ttlTooLong
  | thresholdZero
  | maxAttemptsZero
deriving DecidableEq, Repr

def SettingsFault.message : SettingsFault → String
  | .urlMissing mode => urlSetting mode ++ " is required in " ++ mode.name ++ " mode"
  | .urlBad mode cause => urlSetting mode ++ ": " ++ cause.message
  | .schemeUnsupported mode scheme =>
    urlSetting mode ++ ": unsupported scheme '" ++ scheme ++ "'"
  | .tokenMissing => "gateway.access_token is required in cloud mode"
  | .timeoutZero => "gateway timeouts must be greater than 0"
  | .maxEntriesZero => "cache.max_entries must be greater than 0"
  | .ttlZero => "cache.default_ttl must be greater than 0"
  | .ttlTooLong => "cache.default_ttl must be at most " ++ toString Cache.maxTtl.secs ++ "s"
  | .thresholdZero => "resilience.failure_threshold must be greater than 0"
  | .maxAttemptsZero => "resilience.retry_max_attempts must be greater than 0"

/-- Whether a URL can be asked for over HTTP. -/
def Url.isHttp (u : Url) : Bool := u.scheme == "http" || u.scheme == "https"

namespace GatewaySettings

/-- The URL for the mode must be one of HTTP. -/
def checkUrl (g : GatewaySettings) : Except SettingsFault Unit :=
  match g.url with
  | none => .error (.urlMissing g.mode)
  | some text =>
    match Url.parse text with
    | .error cause => .error (.urlBad g.mode cause)
    | .ok u => if u.isHttp then .ok () else .error (.schemeUnsupported g.mode u.scheme)

/-- In cloud mode there must be a token that is not blank. -/
def checkToken (g : GatewaySettings) : Except SettingsFault Unit :=
  if g.mode = .cloud ∧ Text.isBlankText (g.accessToken.getD "") then .error .tokenMissing else .ok ()

/-- Neither timeout may be zero. -/
def checkTimeouts (g : GatewaySettings) : Except SettingsFault Unit :=
  if g.readTimeout = .zero ∨ g.writeTimeout = .zero then .error .timeoutZero else .ok ()

/-- The first fault of the gateway's settings, if there is one. -/
def check (g : GatewaySettings) : Except SettingsFault Unit := do
  g.checkUrl
  g.checkToken
  g.checkTimeouts

end GatewaySettings

/-- The fault, where there is one. -/
def refuseIf (isFault : Bool) (fault : SettingsFault) : Except SettingsFault Unit :=
  if isFault then .error fault else .ok ()

/-- The first fault of the settings, if there is one. -/
def Settings.check (s : Settings) : Except SettingsFault Unit := do
  s.gateway.check
  refuseIf (s.cache.maxEntries == 0) .maxEntriesZero
  refuseIf (s.cache.defaultTtl == .zero) .ttlZero
  refuseIf (Cache.maxTtl < s.cache.defaultTtl) .ttlTooLong
  refuseIf (s.resilience.failureThreshold == 0) .thresholdZero
  refuseIf (s.resilience.maxAttempts == 0) .maxAttemptsZero

end SecretBroker
