import SecretBroker.Settings.Schema
import SecretBroker.Yaml.Node

/-!
# Settings in YAML

A text is any scalar, and so is what denotes a duration; a whole number is a plain scalar, decimal
or in base sixteen, eight or two. A section is a mapping; where nothing is written it has its
defaults. Members that are unknown are passed over; a known one may come once.
-/

namespace SecretBroker.Settings
open SecretBroker.Yaml (Node Document)

/-- Whether a plain text means nothing. -/
def isYamlNull (text : String) : Bool := text ∈ ["null", "Null", "NULL", "~"]

/-- The tag of the null value. -/
def yamlNullTag : String := "tag:yaml.org,2002:null"

/-- The tag of whole numbers. -/
def yamlIntTag : String := "tag:yaml.org,2002:int"

/-- Whether digits have a zero in front that does not count. -/
def hasIdleZero (digits : List Char) : Bool :=
  match digits with
  | '0' :: _ :: _ => digits.all Char.isDigit
  | _ => false

/-- The whole number that a plain text writes: a plus sign if one likes, then digits, or digits of
another base behind its mark. -/
def yamlNatural? (text : String) : Option Nat :=
  let digits (base : Nat) (cs : List Char) : Option Nat :=
    if cs.isEmpty then none else Text.numberIn? base cs
  let unsigned := match text.toList with
    | '+' :: cs => cs
    | cs => cs
  match unsigned with
  | '0' :: 'x' :: cs => digits 16 cs
  | '0' :: 'o' :: cs => digits 8 cs
  | '0' :: 'b' :: cs => digits 2 cs
  | cs => if hasIdleZero cs then none else digits 10 cs

/-- The text of a scalar. -/
def yamlText? : Node → Option String
  | .scalar _ text _ => some text
  | _ => none

/-- Whether a scalar means nothing; nothing when its tag says so and its text does not. -/
def meansNothing? (tag : Option String) (text : String) (style : Yaml.Style) : Option Bool :=
  if style != .plain then some false
  else
    match tag with
    | some tag =>
      if tag = yamlNullTag then (if isYamlNull text then some true else none) else some false
    | none => some (text = "" || isYamlNull text)

/-- The value that one of several words denotes: a scalar that is the word, or one without value
that has it as its tag, behind an exclamation mark. -/
def yamlChoice? {α : Type} (named : String → Option α) : Node → Option α
  | .scalar tag text _ =>
    match tag.map String.toList with
    | some ('!' :: word) =>
      if text = "" || isYamlNull text then named (String.ofList word) else none
    | _ => named text
  | _ => none

/-- The whole number below `2 ^ bits` that a scalar writes. -/
def yamlBounded? (bits : Nat) : Node → Option Nat
  | .scalar tag text style => do
    if style != .plain && !(style == .literal && tag == some yamlIntTag) then none
    let k ← yamlNatural? text
    if k < 2 ^ bits then some k else none
  | _ => none

/-- The text of a scalar, none of one that means nothing. -/
def yamlOptionalText? : Node → Option (Option String)
  | .scalar tag text style => do return if ← meansNothing? tag text style then none else some text
  | _ => none

/-- The value of a kind that a node denotes, aliases aside. -/
def Kind.ofNode? : (kind : Kind) → Node → Option kind.Value
  | .text, n => yamlText? n
  | .optionalText, n => yamlOptionalText? n
  | .duration, n => do Duration.ofPhrase? (← yamlText? n)
  | .natural bits _, n => yamlBounded? bits n
  | .mode, n => yamlChoice? GatewayMode.ofName? n
  | .format, n => yamlChoice? LogFormat.ofName? n

/-- The value of a kind that a node of a document denotes. -/
def Kind.ofYaml? (d : Document) (kind : Kind) (n : Node) : Option kind.Value := do
  kind.ofNode? (← d.target? n)

/-- How a member's value is read into settings of type `σ`. -/
abbrev YamlField (σ : Type) := String × (σ → Node → Option σ)

/-- The entries of a mapping, read into `s` one after the other. -/
def yamlEntries? {σ : Type} (d : Document) (fields : List (YamlField σ)) :
    (seen : List String) → List (Node × Node) → σ → Option σ
  | _, [], s => some s
  | seen, (k, v) :: rest, s => do
    let name ← yamlText? (← d.target? k)
    match fields.lookup name with
    | none => yamlEntries? d fields seen rest s
    | some read =>
      if seen.contains name then none
      else yamlEntries? d fields (name :: seen) rest (← read s v)

/-- A mapping read into `s`, or `s` itself where nothing is written. -/
def yamlRecord? {σ : Type} (d : Document) (fields : List (YamlField σ)) (s : σ) (n : Node) :
    Option σ := do
  match ← d.target? n with
  | .mapping entries => yamlEntries? d fields [] entries s
  | .scalar _ "" .plain => some s
  | _ => none

/-- A section of a YAML text, read into its defaults. -/
def Section.ofYaml? {σ : Type} (d : Document) (s : Section σ) (defaults : σ) (n : Node) : Option σ :=
  yamlRecord? d (s.members.map fun m => (m.name, fun s n => (m.kind.ofYaml? d n).map (m.set s)))
    defaults n

/-- The settings that a YAML text gives. -/
def ofYaml? (text : String) : Option Settings := do
  let d ← Yaml.document? text
  yamlRecord? d
    (mapSections fun name section_ defaults set =>
      (name, fun s n => (section_.ofYaml? d defaults n).map (set s)))
    {} (d.root.getD .absent)

end SecretBroker.Settings
