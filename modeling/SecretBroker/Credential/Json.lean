import SecretBroker.Credential
import SecretBroker.Json.Record
import SecretBroker.Json.Printer

/-!
# Credentials as JSON

How each record is written as a JSON value and read from a JSON text. A record is written with all
its fields, absent ones as null, in the order of declaration; only the error of a health report is
left out when there is none. In reading, an absent field is as good as null, and a list of
credentials that is null counts as empty.
-/

namespace SecretBroker
open Json

namespace Consumer

def toJson (c : Consumer) : Value :=
  .object [("id", .string c.id), ("username", .ofOption c.username),
    ("custom_id", .ofOption c.customId)]

def fields : List (Json.Field Consumer) := [
  .required "id" .text fun c id => { c with id },
  .optional "username" (.optional .text) fun c username => { c with username },
  .optional "custom_id" (.optional .text) fun c customId => { c with customId }]

def reader : Reader Consumer := Record.reader "Consumer" fields { id := "" }

end Consumer

namespace ConsumerSecret

/-- The reference to a consumer inside a credential. -/
def ownerReader : Reader String :=
  Record.reader "ConsumerRef" [.required "id" .text fun _ id => id] ""

def toJson (s : ConsumerSecret) : Value :=
  .object [("id", .string s.id), ("key", .string s.key), ("secret", .string s.secret),
    ("consumer", match s.owner with
      | some id => .object [("id", .string id)]
      | none => .null)]

def fields : List (Json.Field ConsumerSecret) := [
  .required "id" .text fun s id => { s with id },
  .required "key" .text fun s key => { s with key },
  .required "secret" .text fun s secret => { s with secret },
  .optional "consumer" (.optional ownerReader) fun s owner => { s with owner }]

def reader : Reader ConsumerSecret :=
  Record.reader "ConsumerSecret" fields { id := "", key := "", secret := "" }

end ConsumerSecret

namespace CredentialList

def toJson (l : CredentialList) : Value :=
  .object [("data", .array (l.data.map ConsumerSecret.toJson)),
    ("total", match l.total with
      | some n => .ofNat n
      | none => .null)]

def fields : List (Json.Field CredentialList) := [
  .optional "data" (.optional (.list ConsumerSecret.reader)) fun l data =>
    { l with data := data.getD [] },
  .optional "total" (.optional (.natural 64 "u64")) fun l total => { l with total }]

def reader : Reader CredentialList := Record.reader "CredentialList" fields {}

end CredentialList

namespace NewCredential

def toJson (c : NewCredential) : Value :=
  .object [("key", .string c.key), ("secret", .string c.secret)]

def fields : List (Json.Field NewCredential) := [
  .required "key" .text fun c key => { c with key },
  .required "secret" .text fun c secret => { c with secret }]

def reader : Reader NewCredential :=
  Record.reader "NewCredential" fields { key := "", secret := "" }

end NewCredential

namespace Health

def toJson (h : Health) : Value :=
  .object ([("healthy", .bool h.healthy), ("response_time_ms", .ofNat h.responseMillis)]
    ++ (h.error.map fun e => [("error", Value.string e)]).getD [])

def fields : List (Json.Field Health) := [
  .required "healthy" .bool fun h healthy => { h with healthy },
  .required "response_time_ms" (.natural 64 "u64") fun h responseMillis => { h with responseMillis },
  { Json.Field.optional "error" (.optional .text) fun h error => { h with error } with
    neededByPlace := true }]

def reader : Reader Health := Record.reader "HealthCheckResult" fields ⟨false, 0, none⟩

end Health

end SecretBroker
