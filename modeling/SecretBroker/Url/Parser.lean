import SecretBroker.Url.Domain
import SecretBroker.Url.Path

/-!
# Reading URLs

The text of an absolute URL is read part after part, as the URL standard says: scheme, authority,
path, query, fragment. Controls and spaces around the text, and tabs and line breaks anywhere in
it, are passed over. Of several faults the first in this order is reported.
-/

namespace SecretBroker.Url

/-- Why a text is no absolute URL. -/
inductive UrlError where
  | noScheme
  | emptyHost
  | badDomainName
  | badDomainCharacter
  | badIpv4
  | badIpv6
  | badPort
deriving DecidableEq, Repr

def UrlError.message : UrlError → String
  | .noScheme => "relative URL without a base"
  | .emptyHost => "empty host"
  | .badDomainName => "invalid international domain name"
  | .badDomainCharacter => "invalid domain character"
  | .badIpv4 => "invalid IPv4 address"
  | .badIpv6 => "invalid IPv6 address"
  | .badPort => "invalid port number"

/-- Whether the character ends a path segment, and with it whatever comes before the path. -/
def isSlash (kind : SchemeKind) (c : Char) : Bool := c == '/' || (c == '\\' && kind != .other)

/-- Whether the character ends an authority. -/
def endsAuthority (kind : SchemeKind) (c : Char) : Bool := isSlash kind c || c == '?' || c == '#'

/-- A text without controls and spaces around it, and without ignored characters. -/
def cleaned (text : String) : List Char :=
  let isOuter (c : Char) : Bool := c.toNat ≤ 0x20
  let cs := ((text.toList.dropWhile isOuter).reverse.dropWhile isOuter).reverse
  cs.filter fun c => !isIgnored c

/-- Whether the character may stand in a scheme after its first letter. -/
def isSchemeChar (c : Char) : Bool := c.isAlphanum || c == '+' || c == '-' || c == '.'

/-- The scheme at the start of the text, in lower case, and what follows its colon. -/
def scheme? (cs : List Char) : Option (String × List Char) :=
  match cs.takeWhile isSchemeChar, cs.dropWhile isSchemeChar with
  | c :: more, ':' :: rest =>
    if c.isAlpha then some (String.ofList ((c :: more).map Char.toLower), rest) else none
  | _, _ => none

/-- The host that a text between brackets, or all of it without brackets, names in a URL of a
special scheme. -/
def host (cs : List Char) : Except UrlError Host :=
  match cs with
  | '[' :: inner =>
    match inner.getLast?, ipv6? inner.dropLast with
    | some ']', some pieces => .ok (.ipv6 pieces)
    | _, _ => .error .badIpv6
  | cs =>
    match domainName? (Text.decodedLossy (percentDecode cs)).toList with
    | none => .error .badDomainName
    | some [] => .error .emptyHost
    | some name =>
      if endsInNumber name then
        match ipv4? name with
        | some address => .ok (.ipv4 address)
        | none => .error .badIpv4
      else .ok (.domain (String.ofList name))

/-- Whether a host of a scheme of its own may hold the character. -/
def isOpaqueHostChar (c : Char) : Bool :=
  c ∉ ['\x00', '\t', '\n', '\r', ' ', '#', '/', ':', '<', '>', '?', '@', '[', '\\', ']', '^', '|']

/-- The host that a text names in a URL of any other scheme. -/
def opaqueHost (cs : List Char) : Except UrlError Host :=
  match cs with
  | '[' :: inner =>
    match inner.getLast?, ipv6? inner.dropLast with
    | some ']', some pieces => .ok (.ipv6 pieces)
    | _, _ => .error .badIpv6
  | cs =>
    if cs.all isOpaqueHostChar then
      .ok (.domain (String.ofList (percentEncode controlSet cs)))
    else .error .badDomainCharacter

/-- A host's text and what follows it. A colon ends it unless brackets are open. -/
def splitHost (kind : SchemeKind) : (isInside : Bool) → List Char → List Char × List Char
  | _, [] => ([], [])
  | isInside, c :: cs =>
    if (c == ':' && !isInside) || endsAuthority kind c then ([], c :: cs)
    else
      let isInside := if c == '[' then true else if c == ']' then false else isInside
      let (host, rest) := splitHost kind isInside cs
      (c :: host, rest)

/-- The port whose colon has been read, none for the scheme's own, and what follows. -/
def port (scheme : String) (cs : List Char) : Except UrlError (Option Nat × List Char) :=
  let ds := cs.takeWhile Char.isDigit
  let rest := cs.dropWhile Char.isDigit
  let n := Text.decimal ds
  if 65535 < n then .error .badPort
  else
    match rest with
    | c :: _ =>
      if c == '/' || c == '\\' || c == '?' || c == '#' then .ok (number ds n, rest)
      else .error .badPort
    | [] => .ok (number ds n, rest)
where
  number (ds : List Char) (n : Nat) : Option Nat :=
    if ds.isEmpty || some n == defaultPort? scheme then none else some n

/-- User and password as written before the last at sign of an authority. -/
def userinfo (cs : List Char) : String × Option String :=
  let encoded (cs : List Char) : String := String.ofList (percentEncode userinfoSet cs)
  (encoded (cs.takeWhile (· != ':')),
    match cs.dropWhile (· != ':') with
    | _ :: c :: rest => some (encoded (c :: rest))
    | _ => none)

/-- The text before the last at sign of an authority, if it has one, and the text after. -/
def splitUserinfo (kind : SchemeKind) (cs : List Char) : Option (List Char) × List Char :=
  let inside := cs.takeWhile fun c => !endsAuthority kind c
  let outside := cs.dropWhile fun c => !endsAuthority kind c
  let after := (inside.reverse.takeWhile (· != '@')).reverse
  if after.length = inside.length then (none, cs)
  else (some (inside.take (inside.length - after.length - 1)), after ++ outside)

/-- The authority at the start of the text, and what follows. -/
def readAuthority (scheme : String) (cs : List Char) : Except UrlError (Authority × List Char) := do
  let kind := SchemeKind.of scheme
  let (before, rest) := splitUserinfo kind cs
  if before = some [] && (rest.head?.map (endsAuthority kind)).getD false then throw .emptyHost
  let (username, password) := userinfo (before.getD [])
  let hasUser := username != "" || password.isSome
  let (hostText, rest) := splitHost kind false rest
  if kind = .special && hostText.isEmpty then throw .emptyHost
  let host ← if kind = .other then opaqueHost hostText else host hostText
  let isEmpty := host = .domain ""
  if isEmpty && (rest.head? = some ':' || hasUser) then throw .emptyHost
  let (port, rest) ← match rest with
    | ':' :: rest => port scheme rest
    | rest => pure (none, rest)
  return ({ username, password, host, port }, rest)

/-- The text of a path and what follows it. -/
def splitPath (cs : List Char) : List Char × List Char :=
  let isInside (c : Char) : Bool := c != '?' && c != '#'
  (cs.takeWhile isInside, cs.dropWhile isInside)

/-- The parts of a text between slashes. -/
def slashParts (kind : SchemeKind) (cs : List Char) : List (List Char) := cs.splitOnP (isSlash kind)

/-- The segments that the text behind a path's first slash writes, empty ones in front included. -/
def written (kind : SchemeKind) (cs : List Char) : List String :=
  pushSegments kind []
    ((slashParts kind cs).map fun p => String.ofList (percentEncode pathSet p))

/-- The segments of the path whose text stands behind the first slash. -/
def rooted (kind : SchemeKind) (cs : List Char) : List String :=
  withoutLeadingEmpty kind (written kind cs)

/-- The segments of the path behind an authority. Without a text there are none, but for schemes
whose paths always have one. -/
def pathAfterAuthority (kind : SchemeKind) (cs : List Char) : List String :=
  match cs with
  | [] => if kind = .other then [] else [""]
  | c :: rest => if isSlash kind c then rooted kind rest else rooted kind (c :: rest)

/-- The query and fragment that end the text. -/
def ending (kind : SchemeKind) (cs : List Char) : Option String × Option String :=
  let set := if kind = .other then querySet else specialQuerySet
  let fragment (cs : List Char) : Option String :=
    some (String.ofList (percentEncode fragmentSet cs))
  match cs with
  | '?' :: rest =>
    (some (String.ofList (percentEncode set (rest.takeWhile (· != '#')))),
      match rest.dropWhile (· != '#') with
      | _ :: rest => fragment rest
      | [] => none)
  | '#' :: rest => (none, fragment rest)
  | _ => (none, none)

/-- The URL whose authority begins the text. -/
def afterDoubleSlash (scheme : String) (cs : List Char) : Except UrlError Url := do
  let kind := SchemeKind.of scheme
  let (authority, rest) ← readAuthority scheme cs
  let (path, rest) := splitPath rest
  let (query, fragment) := ending kind rest
  return { scheme, authority := some authority, path := .segments (pathAfterAuthority kind path)
           query, fragment }

/-- The host of a file's URL, none for the machine itself or where a drive letter stands in its
place, and what follows. -/
def fileHost (cs : List Char) : Except UrlError (Option Host × List Char) := do
  let hostText := cs.takeWhile fun c => !endsAuthority .file c
  let rest := cs.dropWhile fun c => !endsAuthority .file c
  if isDriveLetter (String.ofList hostText) then return (none, cs)
  if hostText.isEmpty then return (none, rest)
  let host ← host hostText
  return (if host = .domain "localhost" then none else some host, rest)

/-- The file's URL with this host and path. A path that begins with a drive letter has no host. -/
def fileUrl (host : Option Host) (path rest : List Char) : Url :=
  let names := written .file (match path with
    | c :: cs => if isSlash .file c then cs else c :: cs
    | [] => [])
  let isDrive := (names.head?.map isDriveLetter).getD false
  let (query, fragment) := ending .file rest
  { scheme := "file"
    authority := some { host := if isDrive then .domain "" else host.getD (.domain "") }
    path := .segments (withoutLeadingEmpty .file names), query, fragment }

/-- The URL of a file, its scheme read. -/
def afterFileScheme (cs : List Char) : Except UrlError Url := do
  match cs with
  | a :: b :: cs' =>
    if isSlash .file a && isSlash .file b then
      let (host, rest) ← fileHost cs'
      let (path, rest) := splitPath rest
      return fileUrl host path rest
    else if isSlash .file a then
      let (path, rest) := splitPath (b :: cs')
      return fileUrl none path rest
    else
      let (path, rest) := splitPath cs
      return fileUrl none path rest
  | cs =>
    let (path, rest) := splitPath (cs.dropWhile (isSlash .file))
    return fileUrl none path rest

/-- The URL of a scheme of its own, its scheme read. -/
def afterOtherScheme (scheme : String) (cs : List Char) : Except UrlError Url :=
  match cs with
  | '/' :: '/' :: rest => afterDoubleSlash scheme rest
  | '/' :: rest =>
    let (path, rest) := splitPath rest
    let (query, fragment) := ending .other rest
    .ok { scheme, authority := none, path := .segments (rooted .other path), query, fragment }
  | cs =>
    let (path, rest) := splitPath cs
    let (query, fragment) := ending .other rest
    .ok { scheme, authority := none
          path := .rootless (String.ofList (percentEncode controlSet path)), query, fragment }

/-- The absolute URL that a text writes. -/
def parse (text : String) : Except UrlError Url :=
  match scheme? (cleaned text) with
  | none => .error .noScheme
  | some (scheme, rest) =>
    match SchemeKind.of scheme with
    | .special => afterDoubleSlash scheme (rest.dropWhile (isSlash .special))
    | .file => afterFileScheme rest
    | .other => afterOtherScheme scheme rest

end SecretBroker.Url
