import Depot.Http.Request
import Depot.Number.Exact
import Depot.Text.Lowercase
/-!
# Fetching within a time limit

A request is given up when its limit passes before the answer is there. Whatever
else goes wrong is a failure of the transport that quotes its cause.
-/
namespace Depot

/-- What the network does with a request: it refuses it, or it answers. -/
inductive Delivery where
  | refuse (afterMs : Float) (f : Failure)
  /-- The head of the response comes first, then its body or a failure to read it. -/
  | answer (headAfterMs : Float) (r : Response) (bodyAfterMs : Float)
      (bodyFailure : Option Failure)

namespace Fetch

/-- The time limit that applies when a request names none. -/
def defaultTimeoutMs : Float := 30000.0

/-- The name of the error that a given-up request ends with. -/
def abortName : String := "AbortError"

/-- How long a limit or a delay takes; what is not a positive finite number takes no time. -/
def span (ms : Float) : Float := if ms.isFinite && 0.0 < ms then ms else 0.0

/-- What an error on the way of a request means. -/
def failure (limitMs : Float) : Failure → Failure
  | .foreign name message =>
    if name = abortName then .timeout limitMs
    else .transport message (some (.foreign name message))
  | f => .transport f.message (some f)

/-- The headers that a caller sees: their names are lower case, of two with one name the last value
stays, and assignment does not keep every name. -/
def headers (hs : Table String) : Table String :=
  hs.foldl (fun t h =>
    let name := Text.lowercase h.1
    if name = Value.prototypeKey then t else Table.put name h.2 t) []

/-- Whether something that takes `afterMs` comes too late. -/
def isLate (limitMs afterMs : Float) : Bool := 0.0 < afterMs && span limitMs ≤ afterMs

/-- What a request comes to, and after how many milliseconds. -/
def settle (limitMs : Float) : Delivery → Float × Outcome Response
  | .refuse afterMs f =>
    if isLate limitMs afterMs then (span limitMs, .error (.timeout limitMs))
    else (afterMs, .error (failure limitMs f))
  | .answer headAfterMs r bodyAfterMs bodyFailure =>
    let afterMs := headAfterMs + bodyAfterMs
    if isLate limitMs afterMs then (span limitMs, .error (.timeout limitMs))
    else
      match bodyFailure with
      | some f => (afterMs, .error (failure limitMs f))
      | none => (afterMs, .ok { r with headers := headers r.headers })

end Fetch
end Depot
