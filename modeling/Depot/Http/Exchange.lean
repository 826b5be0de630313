import Depot.Decode.Basic
import Depot.Http.Request
import Depot.Report.Basic
import Depot.Text.Utf8
import Depot.Value.Parsing
/-!
# Exchanges

What a call comes to when its request has settled, and what is reported on the
way. A status that is not a success is a failure, whose kind the status alone
decides; the body can only add to its text.
-/
namespace Depot.Exchange

/-- What is reported when a call is sent. -/
def sending (c : Call) : Report :=
  .debug "Sending request" [("method", .text c.method.text), ("path", .text c.path)]

/-- What is reported about a failed call. -/
def failing (c : Call) (f : Failure) : List Report :=
  [.tick .errorsTotal
      [("method", c.method.text), ("code", (f.code?.map ErrorCode.text).getD "unknown")],
   .error "Request failed"
      [("method", .text c.method.text), ("path", .text c.path), ("error", .text f.message)]]

/-- What is reported about a response. -/
def responding (c : Call) (latencyMs : Float) (r : Response) : List Report :=
  [.tick .requestsTotal [("method", c.method.text), ("status", Number.text r.status)],
   .time .requestLatency latencyMs [("method", c.method.text)]]

/-- The texts among the errors that a failed response names. -/
def namedErrors (body : ByteArray) : List String :=
  if body.isEmpty then []
  else
    match Value.parse? (Text.Utf8.decode body) with
    | some v =>
      match v.member "errors" with
      | .list items => items.filterMap fun item =>
        match item with
        | .text s => some s
        | _ => none
      | _ => []
    | none => []

/-- The failure that a response stands for, if it is no success. -/
def failure? (r : Response) : Option Failure :=
  if r.isSuccess then none else some (.ofStatus r.status r.statusText (namedErrors r.body))

/-- What a call comes to, and what is reported about it. -/
def settle (c : Call) (latencyMs : Float) : Outcome Response → Outcome ByteArray × List Report
  | .error f => (.error f, failing c f)
  | .ok r =>
    match failure? r with
    | none => (.ok r.body, responding c latencyMs r)
    | some f => (.error f, responding c latencyMs r ++ failing c f)

/-- The value that a body holds. -/
def readBody (body : ByteArray) : Outcome Value :=
  match Value.parse? (Text.Utf8.decode body) with
  | some v => .ok v
  | none => .error (.serialization "response body is not valid JSON" none none)

/-- The data that a body holds, as the answer to a call. -/
def readAs {α : Type} (decode : Decoder α) (c : Call) (body : ByteArray) : Outcome α := do
  let v ← readBody body
  match (decode v).toExcept with
  | .ok a => .ok a
  | .error issues =>
    .error (.serialization
      ("unexpected response body for " ++ c.method.text ++ " " ++ c.path) none
      (some [("issues", .list (issues.map fun i => .text i.text))]))

end Depot.Exchange
