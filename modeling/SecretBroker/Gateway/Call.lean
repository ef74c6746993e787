import SecretBroker.Gateway.Error
import SecretBroker.Json.Reader
import SecretBroker.Text.Base64
import SecretBroker.Url.Parser

/-!
# Calls to the gateway

A call is one thing asked of the gateway, under the name of its operation. Each attempt at it sends
one request; what comes back, unless the gateway failed, is a response.
-/

namespace SecretBroker

inductive Method where
  | get
  | post
deriving DecidableEq, Repr

def Method.name : Method → String
  | .get => "GET"
  | .post => "POST"

/-- A header; a sensitive one is not shown in logs. -/
structure Header where
  name : String
  value : String
  sensitive : Bool := false
deriving DecidableEq, Repr

/-- One thing asked of the gateway. -/
structure Call where
  operation : String
  method : Method
  url : Url
  headers : List Header := []
  body : Option Json.Value := none
  /-- The text of the error when no answer comes in time. -/
  timeoutMessage : Option String := none
  /-- Whether it does no harm to ask twice. -/
  repeatable : Bool := true

/-- What is sent for a call. -/
structure Request where
  method : Method
  url : Url
  headers : List Header
  body : Option Json.Value

/-- An answer with a status below 500. -/
structure Response where
  status : Nat
  body : String
deriving DecidableEq, Repr

namespace Response

/-- Whether the status says that all went well. -/
def isSuccess (r : Response) : Bool := 200 ≤ r.status && r.status ≤ 299

theorem isSuccess_iff (r : Response) : r.isSuccess = true ↔ 200 ≤ r.status ∧ r.status ≤ 299 := by
  rw [isSuccess, Bool.and_eq_true, decide_eq_true_iff, decide_eq_true_iff]

/-- The error for a status without use. -/
def unexpected (r : Response) (operation : String) : GatewayError :=
  .unexpected operation r.status r.body

/-- The body as a value of some kind. -/
def decode {α : Type} (r : Response) (operation : String) (reader : Json.Reader α) :
    Except GatewayError α :=
  (Json.decode reader r.body).mapError fun c => .invalidResponse operation c.message

end Response

namespace Call

/-- The text of the error when no answer comes in time. -/
def timeoutText (c : Call) : String := c.timeoutMessage.getD ("Timeout during " ++ c.operation)

/-- User and password of a URL as they are meant, if it has any and they are texts. -/
def credentials? (u : Url) : Option (String × Option String) := do
  let a ← u.authority
  let plain (s : String) : Option String := Text.decoded? (Url.percentDecode s.toList)
  let user ← plain a.username
  let password := a.password.bind plain
  if user = "" ∧ password = none then none else some (user, password)

/-- The header that shows user and password. -/
def basicHeader (user : String) (password : Option String) : Header where
  name := "authorization"
  value := "Basic " ++ String.ofList (Text.base64 (Text.utf8Bytes (user ++ ":" ++ password.getD "")))
  sensitive := true

/-- The URL without user and password, which travel in a header. -/
def withoutCredentials (u : Url) : Url :=
  { u with authority := u.authority.map fun a => { a with username := "", password := none } }

/-- The request for the call, sent by a client that names itself if it has a name. A header of the
call takes the place of one of the same name. -/
def request (c : Call) (agent : Option String) : Request :=
  let (url, basic) := match credentials? c.url with
    | some (user, password) => (withoutCredentials c.url, [basicHeader user password])
    | none => (c.url, [])
  let own := basic.filter fun h => !c.headers.any (·.name == h.name)
  { method := c.method, url, body := c.body
    headers := own ++ c.headers
      ++ (if c.body.isSome then [{ name := "content-type", value := "application/json" }] else [])
      ++ (agent.map fun a => { name := "user-agent", value := a }).toList }

end Call
end SecretBroker
