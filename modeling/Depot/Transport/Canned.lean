import Depot.Transport.Fetch
/-!
# Canned responses

Responses that are prepared in advance, or failures in their place, for a
transport that never leaves the process.
-/
namespace Depot

structure Canned where
  status : Float
  statusText : Option String
  headers : Option (Table String)
  body : Option ByteArray
  /-- What is thrown in place of a response. -/
  failure : Option Failure
  /-- What reading the body ends with. -/
  bodyFailure : Option Failure

namespace Canned

private def ofBody (status : Float) (mediaType : String) (body : ByteArray) : Canned :=
  ⟨status, none, some [("content-type", mediaType)], some body, none, none⟩

/-- A response with a JSON body. -/
def json (v : Value) (status : Float) : Canned :=
  ofBody status "application/json" v.json.toUTF8

/-- A response with a body of bytes. -/
def bytes (body : ByteArray) (status : Float) : Canned :=
  ofBody status "application/octet-stream" body

/-- A failed response that names errors; without any it has no body. -/
def errors (status : Float) (messages : List String) : Canned :=
  if messages.isEmpty then ⟨status, none, none, none, none, none⟩
  else json (.record [("errors", .list (messages.map .text))]) status

/-- A failure in place of a response. -/
def failed (f : Failure) : Canned := ⟨0.0, none, none, none, some f, none⟩

/-- The text that goes with a status unless another is given. -/
def defaultStatusText (status : Float) : String :=
  let known : List (Nat × String) :=
    [(200, "OK"), (201, "Created"), (207, "Multi-Status"), (400, "Bad Request"),
     (401, "Unauthorized"), (404, "Not Found"), (409, "Conflict"), (413, "Payload Too Large"),
     (500, "Internal Server Error"), (503, "Service Unavailable")]
  ((known.find? fun (n, _) => status == Float.ofNat n).map Prod.snd).getD ""

/-- What a transport that answers from canned responses makes of one. -/
def outcome (c : Canned) : Outcome Response :=
  match c.failure with
  | some f => .error f
  | none => .ok
      { status := c.status
        statusText := c.statusText.getD (defaultStatusText c.status)
        headers := c.headers.getD []
        body := c.body.getD ByteArray.empty }

/-- What a network that answers with a canned response delivers after `delayMs`. -/
def delivery (c : Canned) (delayMs : Float) (headers : Table String) : Delivery :=
  match c.failure with
  | some f => .refuse delayMs f
  | none =>
    .answer delayMs
      { status := c.status
        statusText := c.statusText.getD ""
        headers := headers
        body := c.body.getD ByteArray.empty } 0.0 c.bodyFailure

end Canned

/-- The failure of a transport that has no response left. -/
def noResponse (transport : String) (r : Request) : Failure :=
  .foreign "Error" (transport ++ ": no response queued for " ++ r.method ++ " " ++ r.url)

end Depot
