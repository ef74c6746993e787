import SecretBroker.Command.Run
import SecretBroker.Command.Usage
import SecretBroker.Credential.Fresh

/-!
# The program

Runs one command: what it finds around it is gathered first, what it reports is written last. There
is no network here, so every gateway is out of reach; a program that has one hands `Invocation.run`
a session with the gateway's answers. Nor is there a log layer; `Invocation.output` says what one
adds.
-/

namespace SecretBroker

/-- The text for a command line that starts no command. -/
def UsageFault.text : UsageFault → String
  | .repeatedOption => "error: an option is given twice"
  | .needlessValue => "error: an option has a value that it does not take"
  | .unknownWord => "error: unexpected argument"
  | .unknownCommand => "error: unrecognized subcommand"
  | .argumentMissing => "error: a required argument is missing"
  | .valueMissing => "error: an option needs a value"
  | .commandMissing => "error: a subcommand is required"
  | .nothingAsked | .helpAsked =>
    "Usage: token-issuer [-v]... [--json] [--config FILE] COMMAND\n\n"
      ++ "Commands: health, get-secret CONSUMER [--show-secret], "
      ++ "create-secret CONSUMER [--show-secret], validate"
  | .versionAsked => "token-issuer 0.1.0"

/-- The system's text for a file that cannot be read. -/
def unreadableText (e : IO.Error) : String :=
  match e with
  | .noFileOrDirectory _ code _ => "No such file or directory (os error " ++ toString code ++ ")"
  | .permissionDenied _ code _ => "Permission denied (os error " ++ toString code ++ ")"
  | .inappropriateType _ code _ => "Is a directory (os error " ++ toString code ++ ")"
  | e => toString e

/-- Reads the file that is named, if one is, ahead of time. -/
def readAhead (file : Option String) : IO Settings.FileReader := do
  match file with
  | none => return fun _ => .error ""
  | some path =>
    let content ← try
        let bytes ← IO.FS.readBinFile path
        pure (.ok bytes.toList)
      catch e => pure (.error (unreadableText e))
    return fun _ => content

/-- The environment as far as it is asked for. -/
def environment : IO Settings.Environment := do
  let names := "RUST_LOG" :: Settings.overrides.map (·.name)
  let values ← names.mapM fun name => return (name, ← IO.getEnv name)
  return fun name => (values.lookup name).join

/-- A credential from the system's random bytes. -/
def freshCredential : IO NewCredential := do
  let key ← IO.getRandomBytes (USize.ofNat NewCredential.keyBytes)
  let secret ← IO.getRandomBytes (USize.ofNat NewCredential.secretBytes)
  return .ofDraw key.toList secret.toList

/-- Runs an invocation; its report. -/
def runInvocation (i : Invocation) : IO Report := do
  let surroundings : Surroundings :=
    { read := ← readAhead i.settingsFile
      env := ← environment
      session := { later := fun _ => .unreachable ["no network"] }
      fresh := ← freshCredential }
  return (i.run surroundings).1

end SecretBroker

open SecretBroker in
def main (args : List String) : IO UInt32 := do
  match Invocation.ofWords args (← IO.getEnv "ISSUER_CONFIG") with
  | .error fault =>
    if fault.exitStatus = 0 then IO.println fault.text else IO.eprintln fault.text
    return UInt32.ofNat fault.exitStatus
  | .ok i =>
    let report ← runInvocation i
    IO.print report.answers
    IO.eprint report.troubles
    return UInt32.ofNat report.exitStatus
