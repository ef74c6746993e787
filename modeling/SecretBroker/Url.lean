import SecretBroker.Url.Host
import SecretBroker.Url.Percent

/-!
# URLs

An absolute URL in the parts of the URL standard, each already as it is written: percent-encoded
where it must be, the host in its one form, the port absent where it is the scheme's own. `text`
puts the parts together.
-/

namespace SecretBroker

namespace Url

/-- Who and where: user, password, host and port. -/
structure Authority where
  username : String := ""
  password : Option String := none
  host : Host
  port : Option Nat := none
deriving DecidableEq, Repr

/-- A path: a text that stands right behind the scheme, or segments that each follow a slash. -/
inductive Path where
  | rootless (text : String)
  | segments (names : List String)
deriving DecidableEq, Repr

/-- The schemes that the standard treats alike, the one for files, and all others. -/
inductive SchemeKind where
  | special
  | file
  | other
deriving DecidableEq, Repr

/-- The port that a scheme's URLs mean when they name none. -/
def defaultPort? (scheme : String) : Option Nat :=
  if scheme = "http" ∨ scheme = "ws" then some 80
  else if scheme = "https" ∨ scheme = "wss" then some 443
  else if scheme = "ftp" then some 21
  else none

def SchemeKind.of (scheme : String) : SchemeKind :=
  if (defaultPort? scheme).isSome then .special else if scheme = "file" then .file else .other

end Url

open Url in
structure Url where
  scheme : String
  authority : Option Authority
  path : Path
  query : Option String
  fragment : Option String
deriving DecidableEq, Repr

namespace Url

def kind (u : Url) : SchemeKind := .of u.scheme

/-- The port behind a host, as it is written. -/
def portText : Option Nat → String
  | some p => ":" ++ toString p
  | none => ""

def Authority.text (a : Authority) : String :=
  let user := if a.username = "" ∧ a.password = none then ""
    else a.username ++ (a.password.map (":" ++ ·)).getD "" ++ "@"
  user ++ a.host.text ++ portText a.port

/-- Segments as they are written, a slash before each. -/
def segmentsText (names : List String) : String := "".intercalate (names.map ("/" ++ ·))

def Path.text : Path → String
  | .rootless text => text
  | .segments names => segmentsText names

/-- What stands between scheme and path. A path that would begin with two slashes is kept apart
from an authority by `/.`. -/
def leader (u : Url) : String :=
  match u.authority, u.path with
  | some a, _ => "//" ++ a.text
  | none, .segments ("" :: _ :: _) => "/."
  | none, _ => ""

/-- The text up to the end of the query. -/
def textWithoutFragment (u : Url) : String :=
  u.scheme ++ ":" ++ u.leader ++ u.path.text ++ (u.query.map ("?" ++ ·)).getD ""

/-- The URL as it is written. -/
def text (u : Url) : String :=
  u.textWithoutFragment ++ (u.fragment.map ("#" ++ ·)).getD ""

/-- Scheme, host and port, as they are written; `null` for a scheme whose URLs have no origin. -/
def originText (u : Url) : String :=
  match u.kind, u.authority with
  | .special, some a => u.scheme ++ "://" ++ a.host.text ++ portText a.port
  | _, _ => "null"

/-- The names of the path, if it has slashes. -/
def pathNames? (u : Url) : Option (List String) :=
  match u.path with
  | .segments (n :: ns) => some (n :: ns)
  | _ => none

/-- The URL with a name and a value at the end of its query. -/
def addQuery (u : Url) (name value : String) : Url :=
  let pair := String.ofList (formPair name value)
  { u with query := some (match u.query with
    | none => pair
    | some q => if q = "" then pair else q ++ "&" ++ pair) }

end Url
end SecretBroker
