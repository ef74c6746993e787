import SecretBroker.Yaml.Scanner

/-!
# YAML documents

A document is a tree of nodes. An alias stands for the node with its anchor, which may be around
it; so aliases stay in the tree and `Document.target?` finds what they stand for. A text holds at
most one document.
-/

namespace SecretBroker.Yaml

inductive Node where
  /-- A scalar with its tag, if it has one. -/
  | scalar (tag : Option String) (text : String) (style : Style)
  | sequence (items : List Node)
  | mapping (entries : List (Node × Node))
  | alias (anchor : Nat)
deriving Repr

/-- The node for a place where nothing is written. -/
def Node.absent : Node := .scalar none "" .plain

/-- What is left of the tokens, and what the nodes so far have named: the number of each anchor's
name, and the node with each number. -/
structure Progress where
  tokens : List Token
  handles : List (String × String) := []
  names : List (String × Nat) := []
  targets : List (Nat × Node) := []

/-- Reads on through the tokens. -/
abbrev Build := StateT Progress Option

namespace Build

/-- The next token. -/
def peek : Build (Option Token) := return (← get).tokens.head?

/-- Passes the next token over. -/
def drop : Build Unit := modify fun p => { p with tokens := p.tokens.drop 1 }

/-- Whether the next token is this one, which is passed over if so. -/
def accept (token : Token) : Build Bool := do
  if (← peek) == some token then
    drop
    return true
  return false

/-- Whether the next token is one of these. -/
def isAt (tokens : List Token) : Build Bool := return (← peek).any tokens.contains

/-- Gives an anchor a number. A name that comes again gets the number that a new one would. -/
def number (name : String) : Build Nat := do
  let p ← get
  let n := p.names.length
  set { p with names := (name, n) :: p.names.filter (·.1 != name) }
  return n

/-- The full tag for a handle and what follows it. -/
def fullTag (handle suffix : String) : Build String := do
  if handle = "" then return suffix
  let expansion ← (← get).handles.lookup handle
  return expansion ++ suffix

/-- The anchor of the node that begins here, if the next token is one. -/
def anchor? : Build (Option Nat) := do
  match ← peek with
  | some (.anchor name) =>
    drop
    return some (← number name)
  | _ => return none

/-- The tag of the node that begins here, if the next token is one. -/
def tag? : Build (Option String) := do
  match ← peek with
  | some (.tag handle suffix) =>
    drop
    return some (← fullTag handle suffix)
  | _ => return none

/-- Anchor and tag of the node that begins here, in either order. -/
def properties : Build (Option Nat × Option String) := do
  match ← anchor? with
  | some n => return (some n, ← tag?)
  | none =>
    match ← tag? with
    | some tag => return (← anchor?, some tag)
    | none => return (none, none)

mutual

/-- The node that begins here. Blocks may begin only where `inBlock` holds, and a sequence without
indentation of its own only where `afterKey` does. -/
def node : (fuel : Nat) → (inBlock afterKey : Bool) → Build Node
  | 0, _, _ => failure
  | fuel + 1, inBlock, afterKey => do
    match ← peek with
    | some (.alias name) =>
      drop
      return .alias (← (← get).names.lookup name)
    | _ =>
      let (anchor, tag) ← properties
      let n ← content fuel inBlock afterKey tag (anchor.isSome || tag.isSome)
      match anchor with
      | some k => modify fun p => { p with targets := (k, n) :: p.targets.filter (·.1 != k) }
      | none => pure ()
      return n

/-- The node behind its properties. With some of them it may be absent. -/
def content : (fuel : Nat) → (inBlock afterKey : Bool) → Option String → Bool → Build Node
  | 0, _, _, _, _ => failure
  | fuel + 1, inBlock, afterKey, tag, hasProperties => do
    match ← peek, inBlock, afterKey with
    | some .blockEntry, _, true => return .sequence (← blockItems fuel false)
    | some (.scalar text style), _, _ =>
      drop
      return .scalar (if tag = some "!" then none else tag) text style
    | some .flowSequenceStart, _, _ =>
      drop
      return .sequence (← flowItems fuel true)
    | some .flowMappingStart, _, _ =>
      drop
      return .mapping (← flowEntries fuel true)
    | some .blockSequenceStart, true, _ =>
      drop
      return .sequence (← blockItems fuel true)
    | some .blockMappingStart, true, _ =>
      drop
      return .mapping (← blockEntries fuel)
    | _, _, _ => if hasProperties then return .scalar tag "" .plain else failure

/-- The node that begins here, absent before one of these tokens. -/
def nodeUnless : (fuel : Nat) → (ends : List Token) → (inBlock afterKey : Bool) → Build Node
  | 0, _, _, _ => failure
  | fuel + 1, ends, inBlock, afterKey => do
    if ← isAt ends then return .absent else node fuel inBlock afterKey

/-- The items of a block sequence to its end, which a token marks if `isIndented` holds. -/
def blockItems : (fuel : Nat) → (isIndented : Bool) → Build (List Node)
  | 0, _ => failure
  | fuel + 1, isIndented => do
    if ← accept .blockEntry then
      let ends := if isIndented then [.blockEntry, .blockEnd]
        else [.blockEntry, .key, .value, .blockEnd]
      let n ← nodeUnless fuel ends true false
      return n :: (← blockItems fuel isIndented)
    if isIndented then
      if ← accept .blockEnd then return [] else failure
    return []

/-- The entries of a block mapping to its end. -/
def blockEntries : (fuel : Nat) → Build (List (Node × Node))
  | 0 => failure
  | fuel + 1 => do
    if ← accept .blockEnd then return []
    if ← accept .key then
      let ends := [.key, .value, .blockEnd]
      let k ← nodeUnless fuel ends true true
      let v ← if ← accept .value then nodeUnless fuel ends true true else pure .absent
      return (k, v) :: (← blockEntries fuel)
    failure

/-- The items of a sequence in brackets to its end. A key or a colon makes an item a mapping of one
entry. -/
def flowItems : (fuel : Nat) → (isFirst : Bool) → Build (List Node)
  | 0, _ => failure
  | fuel + 1, isFirst => do
    if ← accept .flowSequenceEnd then return []
    if !isFirst then
      if !(← accept .flowEntry) then failure
      if ← accept .flowSequenceEnd then return []
    if ← accept .key then
      let k ← do
        if ← isAt [.value, .flowEntry, .flowSequenceEnd] then
          drop
          pure .absent
        else node fuel false false
      let v ← do
        if ← accept .value then nodeUnless fuel [.flowEntry, .flowSequenceEnd] false false
        else pure .absent
      return .mapping [(k, v)] :: (← flowItems fuel false)
    let n ← node fuel false false
    return n :: (← flowItems fuel false)

/-- The entries of a mapping in braces to its end. An entry without a colon is a key alone. -/
def flowEntries : (fuel : Nat) → (isFirst : Bool) → Build (List (Node × Node))
  | 0, _ => failure
  | fuel + 1, isFirst => do
    if ← accept .flowMappingEnd then return []
    if !isFirst then
      if !(← accept .flowEntry) then failure
      if ← accept .flowMappingEnd then return []
    if ← accept .key then
      let k ← nodeUnless fuel [.value, .flowEntry, .flowMappingEnd] false false
      let v ← do
        if ← accept .value then nodeUnless fuel [.flowEntry, .flowMappingEnd] false false
        else pure .absent
      return (k, v) :: (← flowEntries fuel false)
    let k ← node fuel false false
    return (k, .absent) :: (← flowEntries fuel false)

end

/-- The directives before a document: at most one version, and it must be known; each handle at most
once. -/
def directives : (fuel : Nat) → (hasVersion : Bool) → Build Unit
  | 0, _ => failure
  | fuel + 1, hasVersion => do
    match ← peek with
    | some (.versionDirective major minor) =>
      if hasVersion || major != 1 || (minor != 1 && minor != 2) then failure
      drop
      directives fuel true
    | some (.tagDirective handle expansion) =>
      let p ← get
      if (p.handles.lookup handle).isSome then failure
      set { p with handles := p.handles ++ [(handle, expansion)] }
      drop
      directives fuel hasVersion
    | _ => return ()

/-- Handles that need no directive. -/
def knownHandles : List (String × String) := [("!", "!"), ("!!", "tag:yaml.org,2002:")]

/-- The root of the document that the tokens are, nothing if there are none. -/
def root : Build (Option Node) := do
  let fuel := 4 * (← get).tokens.length + 4
  match ← peek with
  | none => return none
  | some first =>
    directives fuel false
    modify fun p => { p with handles := p.handles ++ knownHandles }
    let isExplicit := match first with
      | .versionDirective .. | .tagDirective .. | .documentStart => true
      | _ => false
    if isExplicit then
      if !(← accept .documentStart) then failure
      match ← peek with
      | none | some .documentStart | some .documentEnd | some (.versionDirective ..)
      | some (.tagDirective ..) => return some .absent
      | _ => return some (← node fuel true false)
    else return some (← node fuel true false)

end Build

/-- A document: its root, if it has one, and the nodes that aliases stand for. -/
structure Document where
  root : Option Node
  targets : List (Nat × Node)

/-- What a node stands for: for an alias, the node with its anchor. -/
def Document.target? (d : Document) : Node → Option Node
  | .alias k => d.targets.lookup k
  | n => some n

/-- The one document of a text, if the text breaks no rule and holds no second one. -/
def document? (text : String) : Option Document := do
  let tokens ← tokens? text
  let (root, p) ← Build.root.run { tokens }
  if p.tokens.all (· == .documentEnd) then some { root, targets := p.targets } else none

end SecretBroker.Yaml
