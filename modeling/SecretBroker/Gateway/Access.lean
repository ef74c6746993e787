import SecretBroker.Gateway.Address
import SecretBroker.Gateway.Call
import SecretBroker.Settings
import SecretBroker.Text.Uuid

/-!
# Access to a gateway

How a gateway is reached in each mode: where it keeps consumers and their credentials, what it is
asked when only its health matters, and how a token is shown to it. A control plane keeps
credentials in a realm that takes its name from the plane's id.
-/

namespace SecretBroker

/-- A control plane: its id as it is spelled, and the scheme, host and port of its address. -/
structure ControlPlane where
  id : String
  origin : String
deriving DecidableEq, Repr

namespace ControlPlane

/-- The name of the realm with the plane's credentials. -/
def realm (p : ControlPlane) : String := "auth-realm-" ++ String.ofList (p.id.toList.take 8)

/-- The id of the control plane at a URL: a UUID behind the name for such planes, at the end of the
path but for empty segments. -/
def idOf? (u : Url) : Option String := do
  let names := (← u.pathNames?).filter (· != "")
  match names.reverse with
  | id :: "control-planes" :: _ => if Text.isUuid id then some id else none
  | _ => none

end ControlPlane

/-- What a gateway is reached through. -/
inductive Plane where
  | admin
  | cloud (control : ControlPlane)
deriving DecidableEq, Repr

/-- How one gateway is reached. -/
structure Access where
  base : String
  token : Option String
  plane : Plane
deriving DecidableEq, Repr

def Plane.mode : Plane → GatewayMode
  | .admin => .admin
  | .cloud _ => .cloud

namespace Access

/-- Whether a character may stand in the value of a header. -/
def isHeaderChar (c : Char) : Bool := c == '\t' || (' ' ≤ c && c != '\x7f')

/-- A sensitive header, if its value may be one. -/
def sensitive (name value kind : String) : Except GatewayError Header :=
  if value.toList.all isHeaderChar then .ok { name, value, sensitive := true }
  else .error (.configuration ("Invalid " ++ kind ++ ": failed to parse header value"))

/-- The header that shows a token to the gateway. -/
def tokenHeader (p : Plane) (token : String) : Except GatewayError Header :=
  match p with
  | .admin => sensitive "kong-admin-token" token "admin token"
  | .cloud _ => sensitive "authorization" ("Bearer " ++ token) "access token"

/-- The headers that show a token, if there is one that is not empty. -/
def headersFor (a : Access) (token : Option String) : Except GatewayError (List Header) :=
  match token.filter (· != "") with
  | some token => (tokenHeader a.plane token).map ([·])
  | none => .ok []

/-- The headers that show the gateway's own token. -/
def headers (a : Access) : Except GatewayError (List Header) := a.headersFor a.token

/-- The names under which consumers are kept. -/
def consumerNames (a : Access) : List String :=
  match a.plane with
  | .admin => ["consumers"]
  | .cloud _ => ["core-entities", "consumers"]

/-- The URL of a consumer below a base. -/
def consumerUrl (a : Access) (base id : String) : Except GatewayError Url :=
  Address.below base (a.consumerNames ++ [id])

/-- The URL of a consumer's credentials below a base. -/
def credentialsUrl (a : Access) (base id : String) : Except GatewayError Url := do
  let u ← a.consumerUrl base id
  match u.extend? ["jwt"] with
  | some u => .ok u
  | none => .error (.configuration "Consumer URL cannot be a base")

/-- The URL below a base that answers when the gateway is well. -/
def healthUrl (a : Access) (base : String) : Except GatewayError Url :=
  match a.plane with
  | .admin => Address.below base ["status"]
  | .cloud _ => Address.ofBase base

/-- The URL of a search for the consumer of a name. -/
def searchUrl (a : Access) (name : String) : Except GatewayError Url :=
  (Address.below a.base a.consumerNames).map (·.addQuery "username" name)

/-- The access, if its token can be shown. -/
def usable (a : Access) : Except GatewayError Access := do
  let _ ← a.headers
  return a

/-- The access at a base URL. -/
def atBase (u : Url) (token : Option String) (plane : Plane) : Access where
  base := Address.withoutSlashes u.text
  token := token.filter (· != "")
  plane

/-- The access to a gateway through its own interface. -/
def ofAdmin (url : String) (token : Option String) : Except GatewayError Access := do
  let u ← Address.ofBase url
  (atBase u token .admin).usable

/-- The access to a gateway through the control plane at a URL. -/
def ofControlPlane (url : String) (token : Option String) : Except GatewayError Access := do
  let u ← Address.ofBase url
  match ControlPlane.idOf? u with
  | some id => (atBase u token (.cloud { id, origin := u.originText })).usable
  | none =>
    .error (.configuration ("Invalid control-plane URL '" ++ url
      ++ "': expected .../control-planes/\x7buuid\x7d"))

/-- The access that settings ask for. -/
def ofSettings (g : GatewaySettings) : Except GatewayError Access :=
  match g.mode, g.url with
  | .admin, some url => ofAdmin url g.token
  | .admin, none => .error (.configuration "Admin mode requires an admin API URL")
  | .cloud, some url => ofControlPlane url g.token
  | .cloud, none => .error (.configuration "Cloud mode requires a control-plane URL")

/-- The gateway's mode. -/
def mode (a : Access) : GatewayMode := a.plane.mode

end Access

namespace ControlPlane

/-- The URL of all realms. -/
def realmsUrl (p : ControlPlane) : Except GatewayError Url := Address.below p.origin ["v1", "realms"]

/-- The URL of the plane's realm. -/
def realmUrl (p : ControlPlane) : Except GatewayError Url :=
  Address.below p.origin ["v1", "realms", p.realm]

end ControlPlane
end SecretBroker
