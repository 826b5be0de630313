import Depot.Failure.Basic
import Depot.Http.Call
import Depot.Settings.Basic
/-!
# Requests and responses

A request is a call addressed to a service. The secret of the project is the
value of one header and enters nothing else.
-/
namespace Depot

/-- The body of a request or of nothing. -/
inductive Body where
  | none
  | text (s : String)
  | bytes (b : ByteArray)

structure Request where
  method : String
  url : String
  headers : Table String
  body : Body
  timeoutMs : Option Float

structure Response where
  status : Float
  statusText : String
  headers : Table String
  body : ByteArray

namespace Response

/-- Whether a status says that the request was carried out. -/
def isSuccessStatus (status : Float) : Bool := status ≥ 200.0 && status < 300.0

/-- The statuses after which a request is repeated. -/
def isTransientStatus (status : Float) : Bool :=
  status == 429.0 || status == 502.0 || status == 503.0 || status == 504.0

def isSuccess (r : Response) : Bool := isSuccessStatus r.status

def isTransient (r : Response) : Bool := isTransientStatus r.status

end Response

/-- Where calls go, what every request carries, and how it is repeated. -/
structure Endpoint where
  rootUrl : String
  projectKey : Secret
  userAgent : String
  timeoutMs : Float
  retry : Option RetryPolicy

namespace Endpoint

/-- The address of a path below the root. -/
def url (e : Endpoint) (path : String) (params : Params) : String :=
  e.rootUrl ++ path ++ params.queryString

/-- The media type of what a call sends. -/
def contentType : Content → String
  | .bytes _ => "application/octet-stream"
  | _ => "application/json"

/-- The body that a call sends; an absent value is no body. -/
def body : Content → Body
  | .none => .none
  | .json v => v.json?.elim .none .text
  | .bytes b => .bytes b

/-- The request of a call. -/
def request (e : Endpoint) (c : Call) : Request :=
  { method := c.method.text
    url := e.url c.path c.params
    headers := [("X-API-Key", e.projectKey.expose), ("User-Agent", e.userAgent),
      ("Content-Type", contentType c.content)]
    body := body c.content
    timeoutMs := some e.timeoutMs }

/-- Whether a name is one for a base or a drive: it is not blank. -/
private def named (kind name : String) : Outcome Unit :=
  if Text.isBlankText name then .error (.configuration (kind ++ " name cannot be empty") none)
  else .ok ()

private def below (s : Settings) (root name : String) : Endpoint :=
  { rootUrl := root ++ "/" ++ Text.Percent.encode s.projectId ++ "/" ++ Text.Percent.encode name
    projectKey := s.projectKey
    userAgent := s.userAgent
    timeoutMs := s.requestTimeoutMs
    retry := if s.retry.allows 0 then some s.retry else none }

/-- Where the calls of a base go. -/
def ofBase (s : Settings) (name : String) : Outcome Endpoint := do
  named "Base" name
  return below s s.baseUrl name

/-- Where the calls of a drive go. -/
def ofDrive (s : Settings) (name : String) : Outcome Endpoint := do
  named "Drive" name
  return below s s.driveUrl name

end Endpoint
end Depot
