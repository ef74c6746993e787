import SecretBroker.Command.Run

/-!
# What a command writes

Between loading the settings and answering, a command tells the log what it does. What it says of
its own course is said here; whatever the broker, the gateway's transport and the libraries below
say is handed in (`OtherEvents`). A command that validates settings sets up no log, and neither does
one that fails before. The log is written to the channel for answers, but not between two lines of
an answer.
-/

namespace SecretBroker

/-- What other parts of the program tell the log while a command runs. -/
structure OtherEvents where
  /-- Ahead of the command's own event of this number; behind the last one, if there are so many. -/
  ahead : Nat → List Log.Event := fun _ => []
  /-- When the command has answered. -/
  behind : List Log.Event := []

namespace Invocation

/-- An event of the command itself. -/
def ownEvent (level : Log.Level) (message : String) (fields : List (String × Json.Value) := []) :
    Log.Event :=
  { level, target := "token_issuer::cli", message, fields }

/-- What is logged once there is a log. -/
def opening (i : Invocation) (setup : Log.Setup) (s : Settings) : List Log.Event :=
  [{ level := .debug, target := "issuer_telemetry::logging", message := "Logging initialized"
     fields := [("level", .string (i.logLevel s)), ("format", .string setup.format.name)] },
    ownEvent .info "Running command"
      [("command", .string i.command.name), ("mode", .string s.gateway.mode.name)]]

/-- What is logged once there is a broker. -/
def ready (b : Broker) : List Log.Event :=
  [{ level := .info, target := "issuer_gateway::service", message := "Consumer secret service ready"
     fields := [("mode", .string b.mode.name), ("base_url", .string b.gateway.access.base)] },
    ownEvent .debug "Consumer secret service ready"]

/-- What is logged of the broker's answer, unless it is an error. -/
def closing (i : Invocation) (b : Broker) (fresh : NewCredential) (s : Broker.State) :
    List Log.Event :=
  match i.command with
  | .health =>
    ((b.health s).1.map fun h => ownEvent .info "Health check finished"
      [("healthy", .bool h.healthy), ("response_time_ms", .ofNat h.responseMillis)]).toList
  | .getSecret consumer _ =>
    match (b.get consumer s).1 with
    | some (.ok found) => [ownEvent .info "Secret lookup finished"
        [("consumer", .string consumer), ("found", .bool found.isSome)]]
    | _ => []
  | .createSecret consumer _ =>
    match (b.create consumer fresh s).1 with
    | some (.ok made) => [ownEvent .info "Secret creation finished"
        [("consumer", .string consumer), ("created", .bool made.isSome)]]
    | _ => []
  | .validate => []

/-- The log that a command sets up, if it comes to that, and its own events in order. -/
def journal (i : Invocation) (w : Surroundings) : Option (Log.Setup × List Log.Event) :=
  match i.command, i.settings w with
  | .validate, _ | _, .error _ => none
  | _, .ok s =>
    match i.logSetup w.env s, Broker.ofSettings s with
    | .error _, _ => none
    | .ok setup, .error _ => some (setup, i.opening setup s)
    | .ok setup, .ok b =>
      some (setup, i.opening setup s ++ ready b ++ i.closing b w.fresh (startState w s))

/-- What is logged before a command with these events of its own answers. -/
def among (others : OtherEvents) (own : List Log.Event) : List Log.Event :=
  (own.zipIdx.flatMap fun (e, n) => others.ahead n ++ [e]) ++ others.ahead own.length

/-- The lines of the log before and behind the answers. -/
def logLines (i : Invocation) (layer : Log.Layer) (others : OtherEvents) (w : Surroundings) :
    List String × List String :=
  match i.journal w with
  | none => ([], [])
  | some (setup, own) =>
    let events := among others own
    (layer.lines setup 0 events, layer.lines setup events.length others.behind)

/-- What a command leaves on the channel for answers. -/
def output (i : Invocation) (layer : Log.Layer) (others : OtherEvents) (w : Surroundings) :
    String :=
  let (before, behind) := i.logLines layer others w
  "".intercalate before ++ (i.run w).1.answers ++ "".intercalate behind

end Invocation
end SecretBroker
