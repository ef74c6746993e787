import SecretBroker.Settings.Schema
import SecretBroker.Toml.Document

/-!
# Settings in TOML

A section is a table, or an array of its members' values in order; an array may be shorter than the
members are many. A word that denotes a value may also be the name of an empty table or array in a
table of its own.
-/

namespace SecretBroker.Settings
open SecretBroker.Toml (Entries)

/-- The text of a value that is one. -/
def tomlText? : Toml.Value → Option String
  | .text s => some s
  | _ => none

/-- Whether a value is a table or array without anything in it. -/
def isTomlEmpty : Toml.Value → Bool
  | .array items => items.isEmpty
  | .table _ entries => entries.isEmpty
  | .tables items => items.isEmpty
  | _ => false

/-- The value that one of several words denotes. -/
def tomlChoice? {α : Type} (named : String → Option α) : Toml.Value → Option α
  | .text s => named s
  | .table _ [(name, v)] => if isTomlEmpty v then named name else none
  | _ => none

/-- The whole number below `2 ^ bits` that a value is. -/
def tomlBounded? (bits : Nat) : Toml.Value → Option Nat
  | .integer i => if 0 ≤ i ∧ i < 2 ^ bits then some i.toNat else none
  | _ => none

/-- The value of a kind that a TOML value denotes. -/
def Kind.ofToml? : (kind : Kind) → Toml.Value → Option kind.Value
  | .text, v => tomlText? v
  | .optionalText, v => (tomlText? v).map some
  | .duration, v => do Duration.ofPhrase? (← tomlText? v)
  | .natural bits _, v => tomlBounded? bits v
  | .mode, v => tomlChoice? GatewayMode.ofName? v
  | .format, v => tomlChoice? LogFormat.ofName? v

/-- How a member's value is read into settings of type `σ`. -/
abbrev TomlField (σ : Type) := String × (σ → Toml.Value → Option σ)

/-- The entries of a table read into `s`; those under unknown names are passed over. -/
def tomlEntries? {σ : Type} (fields : List (TomlField σ)) (s : σ) (entries : Entries) : Option σ :=
  entries.foldlM (fun s (name, v) =>
    match fields.lookup name with
    | some read => read s v
    | none => some s) s

/-- The values of an array read into `s`, each as the next field. -/
def tomlItems? {σ : Type} : List (TomlField σ) → List Toml.Value → σ → Option σ
  | f :: fields, v :: vs, s => do tomlItems? fields vs (← f.2 s v)
  | _, _, s => some s

/-- A record read into `s`. -/
def tomlRecord? {σ : Type} (fields : List (TomlField σ)) (s : σ) : Toml.Value → Option σ
  | .table _ entries => tomlEntries? fields s entries
  | .array items => tomlItems? fields items s
  | .tables items => tomlItems? fields (items.map (.table .headed)) s
  | _ => none

/-- A section of a TOML text, read into its defaults. -/
def Section.ofToml? {σ : Type} (s : Section σ) (defaults : σ) (v : Toml.Value) : Option σ :=
  tomlRecord? (s.members.map fun m => (m.name, fun s v => (m.kind.ofToml? v).map (m.set s)))
    defaults v

/-- The settings that a TOML text gives. -/
def ofToml? (text : String) : Option Settings := do
  let entries ← Toml.document? text
  tomlEntries?
    (mapSections fun name section_ defaults set =>
      (name, fun s v => (section_.ofToml? defaults v).map (set s)))
    {} entries

end SecretBroker.Settings
