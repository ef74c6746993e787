import SecretBroker.Credential
import SecretBroker.Text.Quoted

/-!
# Inspecting credentials

One-line texts of the credential types for logs. The place of every secret is taken by a fixed
word, so a text says nothing of the secret in it.
-/

namespace SecretBroker

/-- What stands for a secret. -/
def redacted : String := "[REDACTED]"

/-- A record in an inspection text: its name and its fields. -/
def inspectRecord (name : String) (fields : List (String × String)) : String :=
  name ++ " \x7b " ++ ", ".intercalate (fields.map fun (f, v) => f ++ ": " ++ v) ++ " \x7d"

/-- An optional value in an inspection text. -/
def inspectOption {α : Type} (inspect : α → String) : Option α → String
  | none => "None"
  | some a => "Some(" ++ inspect a ++ ")"

def Consumer.inspect (c : Consumer) : String :=
  inspectRecord "Consumer" [("id", Text.quoted c.id),
    ("username", inspectOption Text.quoted c.username),
    ("custom_id", inspectOption Text.quoted c.customId)]

def ConsumerSecret.inspect (s : ConsumerSecret) : String :=
  inspectRecord "ConsumerSecret" [("id", Text.quoted s.id), ("key", Text.quoted s.key),
    ("secret", Text.quoted redacted),
    ("consumer", inspectOption (fun id => inspectRecord "ConsumerRef" [("id", Text.quoted id)])
      s.owner)]

def CredentialList.inspect (l : CredentialList) : String :=
  inspectRecord "CredentialList"
    [("data", "[" ++ ", ".intercalate (l.data.map ConsumerSecret.inspect) ++ "]"),
      ("total", inspectOption toString l.total)]

def NewCredential.inspect (c : NewCredential) : String :=
  inspectRecord "NewCredential" [("key", Text.quoted c.key), ("secret", Text.quoted redacted)]

def Health.inspect (h : Health) : String :=
  inspectRecord "HealthCheckResult" [("healthy", toString h.healthy),
    ("response_time_ms", toString h.responseMillis), ("error", inspectOption Text.quoted h.error)]

/-- The inspection text of a secret does not depend on its signing secret. -/
theorem ConsumerSecret.inspect_secret (s : ConsumerSecret) (secret : String) :
    { s with secret }.inspect = s.inspect := rfl

theorem NewCredential.inspect_secret (c : NewCredential) (secret : String) :
    { c with secret }.inspect = c.inspect := rfl

end SecretBroker
