import Depot.Failure.Basic
/-!
# What failures show

A failure of the client has a JSON form, and every failure a summary of what its
caller can tell about it.
-/
namespace Depot.Failure

/-- The record that stands for a failure of the client in JSON. -/
def toValue? (f : Failure) : Option Value :=
  f.code?.map fun code => .record
    [("name", .text f.name), ("code", .text code.text), ("message", .text f.message),
     ("statusCode", .optional (f.status?.map .number)), ("retryable", .bool f.isRetryable),
     ("details", .optional (f.details?.map .record))]

/-- The member that only one kind of failure has. -/
private def own : Failure → Fields
  | .http status .. => [("status", .number status)]
  | .timeout limitMs => [("timeoutMs", .number limitMs)]
  | _ => []

/-- What a caller can tell about a failure. -/
def summary (f : Failure) : Fields :=
  match f.code? with
  | none => [("error", .text f.name), ("message", .text f.message)]
  | some code =>
    [("error", .text f.name), ("code", .text code.text), ("message", .text f.message),
     ("statusCode", .optional (f.status?.map .number)), ("retryable", .bool f.isRetryable),
     ("details", .optional (f.details?.map .record))] ++ f.own

end Depot.Failure
