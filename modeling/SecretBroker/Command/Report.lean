import SecretBroker.Json.Printer

/-!
# Reports

What a command leaves behind: lines on two channels, one for answers and one for troubles, and
perhaps a failure. A failure is told last, on the channel for troubles, with what caused it; it alone
decides the exit status.
-/

namespace SecretBroker

/-- A failure and the texts of what caused it, outermost first. -/
structure Failure where
  text : String
  causes : List String := []
deriving DecidableEq, Repr

/-- A text on one of the channels. -/
inductive Line where
  | answer (text : String)
  | trouble (text : String)
deriving DecidableEq, Repr

structure Report where
  lines : List Line := []
  failure : Option Failure := none
deriving DecidableEq, Repr

namespace Failure

/-- A text whose further lines are indented. -/
def indented (indent text : String) : String := ("\n" ++ indent).intercalate (text.splitOn "\n")

/-- A number of a cause, set right in five places. -/
def numbered (n : Nat) : String :=
  let digits := toString n
  String.ofList (List.replicate (5 - digits.length) ' ') ++ digits ++ ": "

/-- The lines for the causes, numbered when there are several. -/
def causeLines (causes : List String) : List String :=
  match causes with
  | [cause] => ["    " ++ indented "    " cause]
  | causes => causes.zipIdx.map fun (cause, n) => numbered n ++ indented "       " cause

/-- The text told of a failure. -/
def told (f : Failure) : String :=
  let causes := match f.causes with
    | [] => ""
    | causes => "\n\nCaused by:\n" ++ "\n".intercalate (causeLines causes)
  "Error: " ++ f.text ++ causes ++ "\n"

/-- The failure as the cause of another. -/
def under (text : String) (f : Failure) : Failure := { text, causes := f.text :: f.causes }

end Failure

namespace Report

/-- What stands on the channel for answers. -/
def answers (r : Report) : String :=
  "".intercalate (r.lines.filterMap fun
    | .answer text => some (text ++ "\n")
    | .trouble _ => none)

/-- What stands on the channel for troubles. -/
def troubles (r : Report) : String :=
  "".intercalate (r.lines.filterMap fun
    | .trouble text => some (text ++ "\n")
    | .answer _ => none) ++ (r.failure.map Failure.told).getD ""

/-- Zero, unless there is a failure. -/
def exitStatus (r : Report) : Nat := if r.failure.isNone then 0 else 1

/-- A failure and nothing else. -/
def failed (f : Failure) : Report := { failure := some f }

/-- A value of JSON as an answer. -/
def json (v : Json.Value) : Line := .answer v.pretty

/-- The line that says that all is well. -/
def good (text : String) : Line := .answer ("✓ " ++ text)

/-- The line that says that something is wrong. -/
def bad (text : String) : Line := .trouble ("✗ " ++ text)

/-- The line that warns of something. -/
def warning (text : String) : Line := .trouble ("⚠ " ++ text)

/-- A line with a name and what it stands for. -/
def entry (name value : String) : Line := .answer ("  " ++ name ++ ": " ++ value)

/-- A heading behind an empty line. -/
def heading (title : String) : Line := .answer ("\n" ++ title)

/-- One line of a list. -/
def bullet (text : String) : Line := .answer ("  ● " ++ text)

end Report
end SecretBroker
