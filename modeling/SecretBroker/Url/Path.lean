import SecretBroker.Url

/-!
# Building paths

A path is built segment by segment. A segment of one dot adds nothing and one of two dots takes the
segment before it away; as the last segment either leaves an empty one behind. In a file's URL a
first segment that is a drive letter gets a colon, and a drive letter is never taken away.
-/

namespace SecretBroker.Url

/-- Whether a segment means the place where it stands. -/
def isSingleDot (segment : String) : Bool := segment.toLower ∈ [".", "%2e"]

/-- Whether a segment means the place above. -/
def isDoubleDot (segment : String) : Bool :=
  segment.toLower ∈ ["..", "%2e%2e", "%2e.", ".%2e"]

/-- Whether a segment is a letter and a colon or bar. -/
def isDriveLetter (segment : String) : Bool :=
  match segment.toList with
  | [c, d] => c.isAlpha && (d == ':' || d == '|')
  | _ => false

/-- The segments without the last one, unless that is a drive letter. -/
def goUp (names : List String) : List String :=
  match names.getLast? with
  | some n => if isDriveLetter n then names else names.dropLast
  | none => []

/-- A drive letter with its colon, where one counts; otherwise the segment itself. -/
def withColon (kind : SchemeKind) (names : List String) (segment : String) : String :=
  if kind = .file ∧ names = [] ∧ isDriveLetter segment then
    String.ofList (segment.toList.take 1 ++ [':'])
  else segment

/-- The path with one more segment. -/
def pushSegment (kind : SchemeKind) (isLast : Bool) (names : List String) (segment : String) :
    List String :=
  let ending := if isLast then [""] else []
  if isDoubleDot segment then goUp names ++ ending
  else if isSingleDot segment then names ++ ending
  else names ++ [withColon kind names segment]

/-- The path with several more segments. -/
def pushSegments (kind : SchemeKind) : List String → List String → List String
  | names, [] => names
  | names, [s] => pushSegment kind true names s
  | names, s :: t :: rest => pushSegments kind (pushSegment kind false names s) (t :: rest)

/-- A file's path without empty segments in front. -/
def withoutLeadingEmpty (kind : SchemeKind) (names : List String) : List String :=
  if kind = .file then
    match names.dropWhile (· == "") with
    | [] => [""]
    | names => names
  else names

/-- Characters that are passed over wherever they stand. -/
def isIgnored (c : Char) : Bool := c == '\t' || c == '\n' || c == '\r'

/-- A text as it is written as one segment. -/
def segmentText (kind : SchemeKind) (name : String) : String :=
  let set := if kind = .other then segmentSet else specialSegmentSet
  String.ofList (percentEncode set (name.toList.filter fun c => !isIgnored c))

/-- The path with a name at its end; a name of dots adds nothing. -/
def addName (kind : SchemeKind) (names : List String) (name : String) : List String :=
  if name = "." ∨ name = ".." then names
  else
    let names := if names = [""] then [] else names
    withoutLeadingEmpty kind (pushSegment kind true names (segmentText kind name))

/-- The path without an empty last segment, unless it is the only one. -/
def dropEmptyEnd (names : List String) : List String :=
  if 1 < names.length ∧ names.getLast? = some "" then names.dropLast else names

/-- The URL with another list of segments; nothing when its path has no segments. -/
def mapNames? (change : List String → List String) (u : Url) : Option Url :=
  match u.path with
  | .rootless _ => none
  | .segments names => some { u with path := .segments (change names) }

/-- The URL with these names at the end of its path, each as a segment of its own. -/
def extend? (u : Url) (names : List String) : Option Url :=
  u.mapNames? (names.foldl (addName u.kind))

/-- As `extend?`, the names taking the place of an empty last segment. -/
def join? (u : Url) (names : List String) : Option Url :=
  u.mapNames? fun old => names.foldl (addName u.kind) (dropEmptyEnd old)

end SecretBroker.Url
