/-!
# Consumers and credentials

What the gateway keeps and hands out: consumers, and the credentials bound to them. A credential's
`key` names its holder in a token and its `secret` signs the token.
-/

namespace SecretBroker

/-- A consumer as the gateway reports it. -/
structure Consumer where
  id : String
  username : Option String := none
  customId : Option String := none
deriving DecidableEq, Repr

/-- A credential bound to a consumer; `owner` is the consumer's internal id, where reported. -/
structure ConsumerSecret where
  id : String
  key : String
  secret : String
  owner : Option String := none
deriving DecidableEq, Repr

/-- The credentials of one consumer, in the gateway's order. -/
structure CredentialList where
  data : List ConsumerSecret := []
  total : Option Nat := none
deriving DecidableEq, Repr

/-- The credential that counts: the first. -/
def CredentialList.first? (l : CredentialList) : Option ConsumerSecret := l.data.head?

/-- What is asked of the gateway for a new credential. -/
structure NewCredential where
  key : String
  secret : String
deriving DecidableEq, Repr

/-- The outcome of a health check. -/
structure Health where
  healthy : Bool
  responseMillis : Nat
  error : Option String := none
deriving DecidableEq, Repr

end SecretBroker
