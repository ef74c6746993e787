import SecretBroker.Command

/-!
# Reading a command line

Options may stand before the command and behind it; behind it a command's own option and argument
are known too. What is said behind the command wins. A word behind `--` is an argument, whatever it
begins with. The file with settings may also be named by the environment, when no option names it on
the same side of the command. The first fault on the line is the one reported; a fault behind the
command counts as earlier than one that shows only at the end of what stands before it.
-/

namespace SecretBroker

/-- Why a command line starts no command. -/
inductive UsageFault where
  /-- An option that may be given once is given again. -/
  | repeatedOption
  /-- An option without a value has one. -/
  | needlessValue
  /-- An option or an argument that is not known. -/
  | unknownWord
  | unknownCommand
  | argumentMissing
  /-- An option's value is missing or empty. -/
  | valueMissing
  | commandMissing
  /-- Nothing at all is asked. -/
  | nothingAsked
  /-- Help is asked for. -/
  | helpAsked
  /-- The version is asked for. -/
  | versionAsked
deriving DecidableEq, Repr

/-- The exit status for a command line that starts no command. Help and the version are answers. -/
def UsageFault.exitStatus : UsageFault → Nat
  | .helpAsked | .versionAsked => 0
  | _ => 2

namespace Usage

/-- The four commands. -/
inductive Verb where
  | health
  | getSecret
  | createSecret
  | validate
deriving DecidableEq, Repr

/-- The command of a name. -/
def Verb.ofName? (name : String) : Option Verb :=
  if name = "health" then some .health
  else if name = "get-secret" then some .getSecret
  else if name = "create-secret" then some .createSecret
  else if name = "validate" then some .validate
  else none

/-- Whether the command is about a consumer. -/
def Verb.takesConsumer : Verb → Bool
  | .getSecret | .createSecret => true
  | .health | .validate => false

/-- The option that takes a value, and its value if that has been read. -/
inductive Pending where
  | nothing
  | value (v : Option String)
deriving DecidableEq, Repr

/-- What has been read on one side of the command. -/
structure Given where
  verbosity : Nat := 0
  asJson : Bool := false
  inClear : Bool := false
  settingsFile : Option String := none
  consumer : Option String := none
  /-- The option for the settings file, while it is not settled. -/
  pending : Pending := .nothing
deriving DecidableEq, Repr

namespace Given

/-- Names the settings file. -/
def setFile (g : Given) (path : String) : Except UsageFault Given :=
  if g.settingsFile.isSome then .error .repeatedOption
  else if path = "" then .error .valueMissing
  else .ok { g with settingsFile := some path }

/-- Settles the option that takes a value. -/
def settled (g : Given) : Except UsageFault Given :=
  match g.pending with
  | .nothing => .ok g
  | .value none => .error .valueMissing
  | .value (some path) => ({ g with pending := .nothing }).setFile path

/-- With the settings file of the environment, if an option names none. -/
def orFile (g : Given) (file : Option String) : Except UsageFault Given :=
  match g.settingsFile, file with
  | none, some path => g.setFile path
  | _, _ => .ok g

/-- Whether anything is asked. -/
def isNothing (g : Given) : Bool := g.verbosity == 0 && !g.asJson && g.settingsFile.isNone

end Given

/-- The options, each by its long name or its letter. -/
inductive Switch where
  | verbose
  | asJson
  | settingsFile
  | help
  | version
  | inClear
deriving DecidableEq, Repr

/-- The option of a long name; one of them only behind a command about a consumer. -/
def Switch.ofName? (verb : Option Verb) (name : String) : Option Switch :=
  if name = "verbose" then some .verbose
  else if name = "json" then some .asJson
  else if name = "config" then some .settingsFile
  else if name = "help" then some .help
  else if name = "version" then some .version
  else if name = "show-secret" ∧ verb.any (·.takesConsumer) then some .inClear
  else none

/-- The option of a letter. -/
def Switch.ofLetter? (c : Char) : Option Switch :=
  if c = 'v' then some .verbose
  else if c = 'c' then some .settingsFile
  else if c = 'h' then some .help
  else if c = 'V' then some .version
  else none

/-- What an option without a value does. -/
def Given.flag (g : Given) (s : Switch) : Except UsageFault Given := do
  let g ← g.settled
  match s with
  | .verbose => return { g with verbosity := g.verbosity + 1 }
  | .asJson => if g.asJson then throw .repeatedOption else return { g with asJson := true }
  | .inClear => if g.inClear then throw .repeatedOption else return { g with inClear := true }
  | .help => throw .helpAsked
  | .version => throw .versionAsked
  | .settingsFile => return { g with pending := .value none }

/-- A word that begins with two hyphens, without them. -/
def Given.long (g : Given) (verb : Option Verb) (word : List Char) : Except UsageFault Given :=
  let name := String.ofList (word.takeWhile (· != '='))
  match Switch.ofName? verb name, word.dropWhile (· != '=') with
  | none, _ => .error .unknownWord
  | some s, [] => g.flag s
  | some .settingsFile, _ :: value => do (← g.settled).setFile (String.ofList value)
  | some _, _ :: _ => .error .needlessValue

/-- The letters of a word behind its one hyphen. The option that takes a value takes what follows
its letter, an equals sign aside. -/
def Given.letters (g : Given) : List Char → Except UsageFault Given
  | [] => .ok g
  | c :: rest => do
    match Switch.ofLetter? c with
    | none => throw .unknownWord
    | some .settingsFile =>
      match rest with
      | [] => g.flag .settingsFile
      | '=' :: value => (← g.settled).setFile (String.ofList value)
      | value => (← g.settled).setFile (String.ofList value)
    | some s => (← g.flag s).letters rest

/-- A word that is no option. -/
def Given.argument (g : Given) (verb : Option Verb) (escaped : Bool) (word : String) :
    Except UsageFault Given :=
  match verb with
  | none =>
    if escaped && (word = "help" || (Verb.ofName? word).isSome) then .error .unknownWord
    else .error .unknownCommand
  | some v =>
    if v.takesConsumer && g.consumer.isNone then do
      return { (← g.settled) with consumer := some word }
    else .error .unknownWord

/-- A word that is read as an option, as the value of one, or as an argument. -/
def Given.word (g : Given) (verb : Option Verb) (word : String) : Except UsageFault Given :=
  match word.toList with
  | '-' :: '-' :: name => g.long verb name
  | '-' :: c :: cs => g.letters (c :: cs)
  | _ =>
    match g.pending with
    | .value none => .ok { g with pending := .value (some word) }
    | _ => g.argument verb false word

/-- The words behind the command `help`, which may name one command. -/
def helpFault : List String → UsageFault
  | [] => .helpAsked
  | [name] => if name = "help" ∨ (Verb.ofName? name).isSome then .helpAsked else .unknownCommand
  | _ => .unknownCommand

/-- The words behind a command. -/
def readBehind (verb : Verb) : (escaped : Bool) → Given → List String → Except UsageFault Given
  | _, g, [] => .ok g
  | true, g, w :: rest => do readBehind verb true (← g.argument verb true w) rest
  | false, g, w :: rest => do
    if w = "--" then readBehind verb true g rest
    else readBehind verb false (← g.word verb w) rest

/-- The words up to a command; what was read, and the command with the words behind it. -/
def readBefore : (escaped : Bool) → Given → List String →
    Except UsageFault (Given × Option (Verb × List String))
  | _, g, [] => .ok (g, none)
  | true, g, w :: rest => do readBefore true (← g.argument none true w) rest
  | false, g, w :: rest => do
    if g.pending = .value none then readBefore (w = "--") (← next g w) rest
    else
      match Verb.ofName? w with
      | some verb => return (g, some (verb, rest))
      | none =>
        if w = "help" then throw (helpFault rest)
        else readBefore (w = "--") (← next g w) rest
where
  /-- A word before the command. -/
  next (g : Given) (w : String) : Except UsageFault Given :=
    if w = "--" then .ok g else g.word none w

/-- The command that was read behind its name. -/
def commandOf (verb : Verb) (g : Given) : Except UsageFault Command :=
  match verb, g.consumer with
  | .health, _ => .ok .health
  | .validate, _ => .ok .validate
  | .getSecret, some consumer => .ok (.getSecret consumer g.inClear)
  | .createSecret, some consumer => .ok (.createSecret consumer g.inClear)
  | _, none => .error .argumentMissing

/-- The fault of a line without a command. -/
def withoutCommand (g : Given) : UsageFault := if g.isNothing then .nothingAsked else .commandMissing

end Usage

open Usage in
/-- The start that a command line asks for, where `file` is the settings file that the environment
names. -/
def Invocation.ofWords (words : List String) (file : Option String) :
    Except UsageFault Invocation := do
  let (before, rest) ← readBefore false {} words
  match rest with
  | none => throw (withoutCommand (← (← before.settled).orFile file))
  | some (verb, rest) =>
    let behind ← readBehind verb false {} rest
    let behind ← behind.settled
    let _ ← behind.orFile file
    let command ← commandOf verb behind
    let before ← before.settled
    let _ ← before.orFile file
    return {
      command
      verbosity := if behind.verbosity = 0 then before.verbosity else behind.verbosity
      asJson := behind.asJson || before.asJson
      settingsFile := (behind.settingsFile <|> before.settingsFile) <|> file }

end SecretBroker
