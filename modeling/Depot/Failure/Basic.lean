import Depot.Text.Blank
import Depot.Value.Json
/-!
# Failures

Why an operation failed. The client's own failures carry a code, a message and
whether the same request may succeed when it is repeated; errors of other
origin, and bare values thrown in place of an error, pass through as they are.
-/
namespace Depot

/-- What a failure of the client is filed under. -/
inductive ErrorCode where
  | configuration | badRequest | unauthorized | notFound | conflict | payloadTooLarge | http
  | transport | timeout | payload | serialization
  deriving DecidableEq, Repr

namespace ErrorCode

def all : List ErrorCode :=
  [.configuration, .badRequest, .unauthorized, .notFound, .conflict, .payloadTooLarge, .http,
   .transport, .timeout, .payload, .serialization]

def text : ErrorCode → String
  | .configuration => "CONFIGURATION_ERROR"
  | .badRequest => "BAD_REQUEST"
  | .unauthorized => "UNAUTHORIZED"
  | .notFound => "NOT_FOUND"
  | .conflict => "CONFLICT"
  | .payloadTooLarge => "PAYLOAD_TOO_LARGE"
  | .http => "HTTP_ERROR"
  | .transport => "TRANSPORT_ERROR"
  | .timeout => "TIMEOUT"
  | .payload => "PAYLOAD_ERROR"
  | .serialization => "SERIALIZATION_ERROR"

def ofText? (s : String) : Option ErrorCode := all.find? (·.text = s)

end ErrorCode

/-- The rejections that have a status of their own. -/
inductive Rejection where
  | badRequest | unauthorized | notFound | conflict | payloadTooLarge
  deriving DecidableEq, Repr

namespace Rejection

def all : List Rejection := [.badRequest, .unauthorized, .notFound, .conflict, .payloadTooLarge]

def status : Rejection → Nat
  | .badRequest => 400
  | .unauthorized => 401
  | .notFound => 404
  | .conflict => 409
  | .payloadTooLarge => 413

def code : Rejection → ErrorCode
  | .badRequest => .badRequest
  | .unauthorized => .unauthorized
  | .notFound => .notFound
  | .conflict => .conflict
  | .payloadTooLarge => .payloadTooLarge

def name : Rejection → String
  | .badRequest => "BadRequestError"
  | .unauthorized => "UnauthorizedError"
  | .notFound => "NotFoundError"
  | .conflict => "ConflictError"
  | .payloadTooLarge => "PayloadTooLargeError"

/-- The message of a rejection about which nothing else is known. -/
def defaultMessage : Rejection → String
  | .badRequest => "Bad request"
  | .unauthorized => "Unauthorized"
  | .notFound => "Not found"
  | .conflict => "Conflict"
  | .payloadTooLarge => "Payload too large"

/-- The rejection that a status stands for. -/
def ofStatus? (status : Float) : Option Rejection :=
  all.find? fun r => status == Float.ofNat r.status

end Rejection

inductive Failure where
  /-- The settings of the client are not valid. -/
  | configuration (message : String) (details : Option Fields)
  /-- The service rejected a request with a status of its own kind. -/
  | rejected (kind : Rejection) (message : String) (details : Option Fields)
  /-- The service answered with any other status that is not a success. -/
  | http (status : Float) (message : String) (details : Option Fields)
  /-- The request did not get through. -/
  | transport (message : String) (cause : Option Failure)
  /-- The request took longer than it may. -/
  | timeout (limitMs : Float)
  /-- An argument breaks a precondition. -/
  | payload (message : String) (details : Option Fields)
  /-- An answer could not be read. -/
  | serialization (message : String) (cause : Option Failure) (details : Option Fields)
  /-- A failure of the client that is none of the above. -/
  | general (code : ErrorCode) (message : String) (status : Option Float) (retryable : Bool)
      (details : Option Fields)
  /-- An error that is not the client's. -/
  | foreign (name message : String)
  /-- A bare value thrown in place of an error. -/
  | thrown (text : String)

namespace Failure

/-- Whether the failure is one of the client's own. -/
def isClient : Failure → Bool
  | .foreign .. => false
  | .thrown .. => false
  | _ => true

def name : Failure → String
  | .configuration .. => "ConfigurationError"
  | .rejected kind .. => kind.name
  | .http .. => "HttpError"
  | .transport .. => "TransportError"
  | .timeout .. => "TimeoutError"
  | .payload .. => "PayloadError"
  | .serialization .. => "SerializationError"
  | .general .. => "DetaError"
  | .foreign name _ => name
  | .thrown _ => "thrown"

def message : Failure → String
  | .configuration message _ => "Configuration error: " ++ message
  | .rejected _ message _ => message
  | .http status message _ => Text.trim ("HTTP error: " ++ Number.text status ++ " " ++ message)
  | .transport message _ => "Transport error: " ++ message
  | .timeout limitMs => "Transport error: request timed out after " ++ Number.text limitMs ++ "ms"
  | .payload message _ => message
  | .serialization message _ _ => "Serialization error: " ++ message
  | .general _ message _ _ _ => message
  | .foreign _ message => message
  | .thrown text => text

/-- The code of a failure of the client. -/
def code? : Failure → Option ErrorCode
  | .configuration .. => some .configuration
  | .rejected kind .. => some kind.code
  | .http .. => some .http
  | .transport .. => some .transport
  | .timeout .. => some .timeout
  | .payload .. => some .payload
  | .serialization .. => some .serialization
  | .general code .. => some code
  | .foreign .. => none
  | .thrown .. => none

/-- The status that the service answered with. -/
def status? : Failure → Option Float
  | .rejected kind .. => some (Float.ofNat kind.status)
  | .http status .. => some status
  | .general _ _ status _ _ => status
  | _ => none

/-- Whether a status says that the service may accept the same request later. -/
def isTemporaryStatus (status : Float) : Bool := status == 429.0 || status ≥ 500.0

/-- Whether the same request may succeed when it is repeated. -/
def isRetryable : Failure → Bool
  | .http status .. => isTemporaryStatus status
  | .transport .. => true
  | .timeout .. => true
  | .general _ _ _ retryable _ => retryable
  | _ => false

/-- Whether the request did not get through, or not in time. -/
def isTransport : Failure → Bool
  | .transport .. => true
  | .timeout .. => true
  | _ => false

def details? : Failure → Option Fields
  | .configuration _ details => details
  | .rejected _ _ details => details
  | .http _ _ details => details
  | .payload _ details => details
  | .serialization _ _ details => details
  | .general _ _ _ _ details => details
  | _ => none

def cause? : Failure → Option Failure
  | .transport _ cause => cause
  | .serialization _ cause _ => cause
  | _ => none

/-- A failure as an error: a bare value is wrapped in one that has its text. -/
def asError : Failure → Failure
  | .thrown text => .foreign "Error" text
  | f => f

/--
The failure of an answer whose status is not a success. The status alone decides
its kind; the errors that the service names are its text, and without any the
text of the status is.
-/
def ofStatus (status : Float) (statusText : String) (errors : List String) : Failure :=
  let details : Option Fields :=
    if errors.isEmpty then none else some [("errors", .list (errors.map .text))]
  let message := if errors.isEmpty then statusText else "; ".intercalate errors
  match Rejection.ofStatus? status with
  | some kind => .rejected kind (if message.isEmpty then kind.defaultMessage else message) details
  | none => .http status message details

end Failure

/-- The result of something that can fail. -/
abbrev Outcome (α : Type) := Except Failure α

end Depot
