import SecretBroker.Credential.Json
import SecretBroker.Gateway.Access
import SecretBroker.Gateway.Operation
import SecretBroker.Gateway.Transport

/-!
# Resolving consumers

Behind a control plane two things come before any call about a consumer: the plane's realm must
exist, and the consumer's external id must be turned into the gateway's own. The realm is made when
it is missing. An external id may be the gateway's own id, and if it is none, the name of a consumer.
The gateway's own interface takes external ids as they are and needs no realm.
-/

namespace SecretBroker

/-- Something asked of the gateway that may end in an error. -/
abbrev Inquiry := ExceptT GatewayError Exchange

/-- A gateway: the access to it, and how calls are carried there. -/
structure Gateway where
  access : Access
  transport : Transport
deriving DecidableEq, Repr

namespace Gateway

/-- Carries a call; its response. -/
def ask (g : Gateway) (c : Call) : Inquiry Response := ExceptT.mk (g.transport.execute c)

/-- A call that reads, with the gateway's token. -/
def reading (g : Gateway) (op : Operation) (url : Except GatewayError Url) (timeoutMessage : String) :
    Except GatewayError Call := do
  let url ← url
  let headers ← g.access.headers
  return { operation := op.name, method := .get, url, headers, timeoutMessage }

/-- A call that writes, with the gateway's token. -/
def writing (g : Gateway) (op : Operation) (url : Except GatewayError Url) (body : Json.Value)
    (timeoutMessage : String) (repeatable : Bool) : Except GatewayError Call := do
  let url ← url
  let headers ← g.access.headers
  return { operation := op.name, method := .post, url, headers, body, timeoutMessage, repeatable }

/-- What the gateway says when a realm of the name exists already. -/
def realmExistsText : String := "realm name must be unique"

/-- Whether a text has another somewhere in it. -/
def holds (part : List Char) : List Char → Bool
  | [] => part.isEmpty
  | c :: cs => part.isPrefixOf (c :: cs) || holds part cs

/-- Whether an answer to the creation of a realm means that the realm exists now. -/
def realmExists (r : Response) : Bool :=
  r.isSuccess || (r.status == 400 && holds realmExistsText.toList r.body.toList)

/-- What is sent to create the realm of a control plane. -/
def realmBody (p : ControlPlane) : Json.Value :=
  .object [("name", .string p.realm), ("allowed_control_planes", .array [.string p.id])]

/-- Makes the realm of a control plane. -/
def createRealm (g : Gateway) (p : ControlPlane) : Inquiry Unit := do
  let call ← g.writing .realmCreate p.realmsUrl (realmBody p) "Timeout creating realm" true
  let r ← g.ask call
  if realmExists r then return ()
  else throw (.configuration ("Failed to create realm " ++ p.realm ++ ": HTTP " ++ toString r.status
    ++ ": " ++ r.body))

/-- Makes sure that the realm of a control plane exists. -/
def ensureRealm (g : Gateway) (p : ControlPlane) : Inquiry Unit := do
  let call ← g.reading .realmCheck p.realmUrl "Timeout checking realm existence"
  let r ← g.ask call
  if r.status = 200 then return ()
  else if r.status = 404 then g.createRealm p
  else throw (r.unexpected Operation.realmCheck.name)

/-- The text for a consumer that could not be resolved in time. -/
def resolvingText (externalId : String) : String := "Timeout resolving consumer: " ++ externalId

/-- The id of the first consumer that a search found, if the consumer has the very name. -/
def firstHit? (found : Json.Value) (name : String) : Option String := do
  let first ← (← (← found.get? "data").array?).head?
  let username ← (← first.get? "username").string?
  let id ← (← first.get? "id").string?
  if username = name ∧ id ≠ "" then some id else none

/-- The id that the body of a search gives. -/
def hitIn? (body name : String) : Option String :=
  match Json.decode .any body with
  | .ok found => firstHit? found name
  | .error _ => none

/-- The gateway's id for the consumer of a name. A search that the gateway could not carry out has
found nothing. -/
def search (g : Gateway) (name : String) : Inquiry (Option String) := do
  let call ← g.reading .consumerSearch (g.access.searchUrl name) (resolvingText name)
  match ← ExceptT.lift (g.transport.execute call) with
  | .error (.unavailable ..) => return none
  | .error e => throw e
  | .ok r => return if r.status = 200 then hitIn? r.body name else none

/-- The control plane's id for a consumer, if it has one. -/
def lookUp (g : Gateway) (externalId : String) : Inquiry (Option String) := do
  let url := g.access.consumerUrl g.access.base externalId
  let call ← g.reading .consumerResolve url (resolvingText externalId)
  let r ← g.ask call
  if r.status = 200 then return some (← r.decode call.operation Consumer.reader).id
  else if r.status = 404 then g.search externalId
  else throw (r.unexpected call.operation)

/-- The gateway's id for a consumer, if it has one, once all that calls about it need is there. -/
def resolve (g : Gateway) (externalId : String) : Inquiry (Option String) :=
  match g.access.plane with
  | .admin => return some externalId
  | .cloud p => do
    g.ensureRealm p
    g.lookUp externalId

end Gateway
end SecretBroker
