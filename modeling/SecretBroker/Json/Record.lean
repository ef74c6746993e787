import SecretBroker.Json.Reader

/-!
# Reading JSON records

A record is written as an object with its fields by name, in any order, or as an array of its
fields in the order of their declaration. Names that are no fields are passed over with their
values; a name that comes twice is refused at its second place. A record is read into a value of
`σ` that begins as a given one, each field replacing its part.
-/

namespace SecretBroker.Json

/-- A field of a record: its name, how its value is read into the record, and whether an object or
an array without it is refused. -/
structure Field (σ : Type) where
  name : String
  read : σ → Reader σ
  neededByName : Bool := false
  neededByPlace : Bool := false

namespace Field
variable {σ α : Type}

/-- A field that every record must have. -/
def required (name : String) (value : Reader α) (set : σ → α → σ) : Field σ where
  name
  read s cs := (value cs).map fun (a, rest) => (set s a, rest)
  neededByName := true
  neededByPlace := true

/-- A field that a record may leave out. -/
def optional (name : String) (value : Reader α) (set : σ → α → σ) : Field σ where
  name
  read s cs := (value cs).map fun (a, rest) => (set s a, rest)

end Field

namespace Record
variable {σ : Type}

/-- What is expected where a record's array ends too early. -/
def elementsText (label : String) (n : Nat) : String :=
  "struct " ++ label ++ " with " ++ toString n ++ (if n = 1 then " element" else " elements")

/-- The record once its object has ended: refused when a field that it needs is not among those
seen. -/
def complete (fields : List (Field σ)) (seen : List String) (s : σ) : Except Complaint σ :=
  match fields.find? fun f => f.neededByName && !seen.contains f.name with
  | some f => .error (.missingField f.name)
  | none => .ok s

/-- The value after a name and its colon. -/
def afterColon {α : Type} (value : Reader α) : Reader α := fun cs =>
  match skipSpace cs with
  | ':' :: rest => value rest
  | _ => .error .malformed

/-- One entry of an object, and what `more` reads after it, given the names seen so far. -/
def entry (fields : List (Field σ)) (more : List String → σ → Reader σ) (seen : List String) (s : σ) :
    Reader σ
  | '\x22' :: cs => do
    let (name, rest) ← orMalformed (string? cs)
    match fields.find? (·.name == name) with
    | some f =>
      if seen.contains name then .error (.duplicateField name)
      else
        let (s, rest) ← afterColon (f.read s) rest
        more (name :: seen) s rest
    | none =>
      let (_, rest) ← afterColon (fun cs => (orMalformed (skipValue cs)).map ((), ·)) rest
      more seen s rest
  | _ => .error .malformed

/-- The entries of an object after its bracket or after an entry, and the record they make of
`s`. -/
def entries (fields : List (Field σ)) : (fuel : Nat) → (isFirst : Bool) → (seen : List String) →
    σ → Reader σ
  | 0, _, _, _ => fun _ => .error .malformed
  | fuel + 1, isFirst, seen, s => fun cs =>
    match isFirst, skipSpace cs with
    | _, '\x7d' :: rest => (complete fields seen s).map (·, rest)
    | true, cs => entry fields (entries fields fuel false) seen s cs
    | false, ',' :: cs => entry fields (entries fields fuel false) seen s (skipSpace cs)
    | false, _ => .error .malformed

/-- The fields of an array after its bracket or after an item, `index` of them read. -/
def places (expected : String) : (index : Nat) → List (Field σ) → σ → Reader σ
  | _, [], s => fun cs =>
    match skipSpace cs with
    | ']' :: rest => .ok (s, rest)
    | _ => .error .malformed
  | index, f :: fields, s => fun cs =>
    match index, skipSpace cs with
    | _, ']' :: rest =>
      match ((f :: fields).zipIdx index).find? (·.1.neededByPlace) with
      | some (_, i) => .error (.invalidLength i expected)
      | none => .ok (s, rest)
    | 0, cs => do
      let (s, rest) ← f.read s cs
      places expected 1 fields s rest
    | n + 1, ',' :: cs =>
      match skipSpace cs with
      | ']' :: _ => .error .malformed
      | cs => do
        let (s, rest) ← f.read s cs
        places expected (n + 2) fields s rest
    | _, _ => .error .malformed

/-- A record with this label and these fields, read into `start`. -/
def reader (label : String) (fields : List (Field σ)) (start : σ) : Reader σ := fun cs =>
  match skipSpace cs with
  | '\x7b' :: cs => entries fields (cs.length + 1) true [] start cs
  | '[' :: cs => places (elementsText label fields.length) 0 fields start cs
  | cs => .error (mismatch ("struct " ++ label) cs)

end Record
end SecretBroker.Json
