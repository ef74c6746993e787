import SecretBroker.Text.Blank
import SecretBroker.Text.Natural
import SecretBroker.Unicode.Alphanumeric

/-!
# Log filters

Which lines are logged is said by a filter: directives between commas, empty ones aside. A
directive names a level, a target, or a span in brackets, or a target or span with a level after an
equals sign; a span may hold one field between braces. A single word that is no level is a target.
Blanks around a directive are passed over, unless it has an equals sign before its level: what
stands there is taken as it is written.
-/

namespace SecretBroker.Log

/-- Why a text is no filter. -/
inductive FilterError where
  /-- A directive is out of shape. -/
  | malformed
  /-- What follows an equals sign is no level. -/
  | unknownLevel
deriving DecidableEq, Repr

def FilterError.message : FilterError → String
  | .malformed => "invalid filter directive"
  | .unknownLevel =>
    "error parsing level filter: expected one of \"off\", \"error\", \"warn\", \"info\", \"debug\", "
      ++ "\"trace\", or a number 0-5"

/-- Whether a text names a level: one of the words, in any case, or a number up to five. The empty
text names one too. -/
def isLevel (s : String) : Bool :=
  match Text.natural 6 s with
  | .ok _ => true
  | .error _ => Text.lowered s ∈ ["", "error", "warn", "info", "debug", "trace", "off"]

/-- What stands after the equals sign of a directive, if it has one. -/
abbrev LevelText := Option (List Char)

/-- A directive from behind the closing bracket of its span. -/
def afterSpan : List Char → Option LevelText
  | [] => some none
  | '=' :: cs => some (some cs)
  | _ => none

/-- A directive from inside its span. -/
def inSpan (cs : List Char) : Option LevelText :=
  match cs.dropWhile fun c => c != ']' && c != '\x7b' with
  | ']' :: rest => afterSpan rest
  | '\x7b' :: cs =>
    match cs.takeWhile (· != '\x7d'), cs.dropWhile (· != '\x7d') with
    | _ :: _, '\x7d' :: ']' :: rest => afterSpan rest
    | _, _ => none
  | _ => none

/-- Whether a target may begin with the character. -/
def startsTarget (c : Char) : Bool :=
  c == '-' || c == ':' || c == '_' || Unicode.isAlphanumeric c

/-- The level text of a directive without blanks around it; nothing when it is out of shape. -/
def levelText? : List Char → Option LevelText
  | [] => none
  | '[' :: cs => inSpan cs
  | c :: cs =>
    if startsTarget c then
      match cs.dropWhile fun c => c != '=' && c != '[' with
      | '=' :: rest => some (some rest)
      | '[' :: rest => inSpan rest
      | _ => some none
    else none

/-- Whether a text is a directive. -/
def checkDirective (cs : List Char) : Except FilterError Unit :=
  match levelText? (Text.trimWhile Text.isBlank cs) with
  | none => .error .malformed
  | some none => .ok ()
  | some (some level) =>
    let blanksAfter := cs.reverse.takeWhile Text.isBlank
    if (cs.head?.map Text.isBlank).getD false then .error .unknownLevel
    else if isLevel (String.ofList (level ++ blanksAfter.reverse)) then .ok ()
    else .error .unknownLevel

/-- The parts between commas. -/
def parts (cs : List Char) : List (List Char) := (cs.splitOn ',').filter (!·.isEmpty)

/-- Whether a text is a filter; if not, what is wrong with its first bad directive. -/
def checkFilter (s : String) : Except FilterError Unit :=
  (parts s.toList).forM checkDirective

end SecretBroker.Log
