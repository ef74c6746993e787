import SecretBroker.Broker
import SecretBroker.Command
import SecretBroker.Command.Report
import SecretBroker.Credential.Mask
import SecretBroker.Log.Event
import SecretBroker.Log.Filter
import SecretBroker.Settings.Loader

/-!
# Running a command

A command first loads the settings. To validate them is to say what came of that; every other
command needs settings without fault, and a log filter and a gateway that can be used, and then asks
the broker. Secrets are masked unless they are asked for in clear.
-/

namespace SecretBroker

/-- What a command finds around it. -/
structure Surroundings where
  read : Settings.FileReader
  env : Settings.Environment
  session : Session
  /-- The credential to have made, should one be needed. -/
  fresh : NewCredential

namespace SettingsError

/-- The error as a failure. -/
def toFailure (e : SettingsError) : Failure := { text := e.message, causes := e.causes }

end SettingsError

namespace GatewayError

/-- The error as a failure. -/
def toFailure (e : GatewayError) : Failure := { text := e.message, causes := e.causes }

end GatewayError

namespace Invocation

/-- The settings as they were loaded. -/
def settings (i : Invocation) (w : Surroundings) : Except SettingsError Settings :=
  Settings.load w.read i.settingsFile (some w.env)

/-- What came of loading the settings. -/
def validation (asJson : Bool) (loaded : Except SettingsError Settings) : Report :=
  match loaded with
  | .ok s =>
    let mode := s.gateway.mode.name
    if asJson then
      { lines := [Report.json (.object ([("valid", .bool true), ("mode", .string mode)]
          ++ (s.gateway.url.map fun u => ("base_url", Json.Value.string u)).toList))] }
    else
      { lines := [Report.good "Configuration is valid", Report.entry "Mode" mode]
          ++ (s.gateway.url.map (Report.entry "Gateway URL")).toList }
  | .error e =>
    { lines := [if asJson then
          Report.json (.object [("valid", .bool false), ("error", .string e.message)])
        else Report.bad e.message]
      failure := some (e.toFailure.under "Configuration is invalid") }

/-- The level of log lines that the command line or the settings name. -/
def logLevel (i : Invocation) (s : Settings) : String :=
  match i.verbosity with
  | 0 => s.logging.level
  | 1 => "info"
  | 2 => "debug"
  | _ => "trace"

/-- The log layer that a command sets up. Its filter is the environment's, if there is one without
fault, else the level. -/
def logSetup (i : Invocation) (env : Settings.Environment) (s : Settings) :
    Except Failure Log.Setup :=
  let level := i.logLevel s
  let setup (filter : String) : Log.Setup :=
    { filter
      format := if i.asJson then .json else s.logging.format
      withTarget := 1 < i.verbosity }
  match (env "RUST_LOG").filter fun text => (Log.checkFilter text).isOk, Log.checkFilter level with
  | some text, _ => .ok (setup text)
  | none, .ok () => .ok (setup level)
  | none, .error e => .error { text := "Invalid log filter: " ++ level ++ ": " ++ e.message }

/-- What is said of the gateway's health. -/
def healthReport (asJson : Bool) (mode : GatewayMode) (breakers : Breaker.Registry) (h : Health) :
    Report where
  lines :=
    if asJson then [Report.json h.toJson]
    else
      [if h.healthy then Report.good "Gateway is healthy" else Report.bad "Gateway is unhealthy",
        Report.entry "Mode" mode.name,
        Report.entry "Response Time" (toString h.responseMillis ++ "ms")]
      ++ (h.error.map (Report.entry "Error")).toList
      ++ Report.heading "Circuit Breakers"
      :: breakers.stats.map fun (name, b) => Report.bullet (name ++ " (" ++ b.phase.name ++ ")")
  failure := if h.healthy then none else some { text := "Gateway health check failed" }

/-- A secret, in clear or masked. -/
def shown (inClear : Bool) (secret : String) : String :=
  if inClear then secret else Credential.masked secret

/-- A consumer's secret as JSON. -/
def secretJson (consumer : String) (inClear : Bool) (s : ConsumerSecret) : Json.Value :=
  .object [("success", .bool true), ("data", .object (
    [("consumer", .string consumer), ("credential_id", .string s.id), ("key", .string s.key),
      ("secret", .string (shown inClear s.secret))]
    ++ (s.owner.map fun id => ("gateway_consumer_id", Json.Value.string id)).toList))]

/-- What is said of a consumer's secret. -/
def secretReport (asJson : Bool) (consumer : String) (inClear : Bool) :
    Option ConsumerSecret → Report
  | none =>
    let text := "Consumer not found: " ++ consumer
    { lines := [if asJson then
          Report.json (.object [("success", .bool false), ("error", .string text)])
        else Report.warning ("No secret found for consumer '" ++ consumer ++ "'")]
      failure := some { text } }
  | some s =>
    { lines := if asJson then [Report.json (secretJson consumer inClear s)]
      else
        [Report.good ("Secret for consumer '" ++ consumer ++ "'"), Report.entry "Credential" s.id,
          Report.entry "Key" s.key, Report.entry "Secret" (shown inClear s.secret)]
        ++ (s.owner.map (Report.entry "Gateway Consumer")).toList }

/-- A report on an attempt; its error is the failure. -/
def attemptReport {α : Type} (report : α → Report) : Except GatewayError α → Report
  | .ok a => report a
  | .error e => .failed e.toFailure

/-- Asks the broker for what the command wants. -/
def consult (i : Invocation) (b : Broker) (fresh : NewCredential) : Broker.Task Report := do
  match i.command with
  | .health =>
    let h ← b.health
    return healthReport i.asJson b.mode (← get).session.breakers h
  | .getSecret consumer inClear =>
    return attemptReport (secretReport i.asJson consumer inClear) (← (b.get consumer).run)
  | .createSecret consumer inClear =>
    return attemptReport (secretReport i.asJson consumer inClear) (← (b.create consumer fresh).run)
  | .validate => return {}

/-- What a command must have before the broker is asked: settings and a broker for them. -/
def prepare (i : Invocation) (w : Surroundings) : Except Failure (Settings × Broker) := do
  let s ← (i.settings w).mapError fun e => e.toFailure.under "Failed to load configuration"
  let _ ← i.logSetup w.env s
  let b ← (Broker.ofSettings s).mapError fun e =>
    e.toFailure.under "Failed to initialize consumer secret service"
  return (s, b)

/-- The broker's state at the start of a command. -/
def startState (w : Surroundings) (s : Settings) : Broker.State :=
  let start := Broker.State.start s
  { start with session := { w.session with breakers := start.session.breakers } }

/-- Runs a command: its report, and the session after it. -/
def run (i : Invocation) (w : Surroundings) : Report × Session :=
  match i.command with
  | .validate => (validation i.asJson (i.settings w), w.session)
  | _ =>
    match i.prepare w with
    | .error f => (.failed f, w.session)
    | .ok (s, b) =>
      let (report, state) := i.consult b w.fresh (startState w s)
      (report.getD {}, state.session)

end Invocation
end SecretBroker
