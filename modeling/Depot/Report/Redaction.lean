import Depot.Failure.Basic
import Depot.Text.Lowercase
import Depot.Value.Basic
/-!
# Redaction

Before a context leaves the process, the members with a secret name are replaced
by a mark, in the context itself and in the records within it. Lists are kept as
they are.

The copy of a record does not keep a member named `__proto__` but takes after its
value: it has the methods that the value has. Those of a date fail on all that is
none, so what takes after a date has no JSON text.
-/
namespace Depot.Redaction

/-- The names of members that hold secrets, in lower case. -/
def secretNames : List String :=
  ["apikey", "x-api-key", "projectkey", "token", "secret", "password"]

def isSecretName (name : String) : Bool := secretNames.contains (Text.lowercase name)

mutual

/-- A value under a name that is not secret. A secret is a record of its value. -/
def redact : Value → Value
  | .record fields => .record (redactFields fields)
  | .secret s => .record [("value", .text s.expose)]
  | v => v

def redactFields : List (String × Value) → List (String × Value)
  | [] => []
  | (k, v) :: rest =>
    if k = Value.prototypeKey then redactFields rest
    else if isSecretName k then (k, .text redactedMark) :: redactFields rest
    else (k, redact v) :: redactFields rest

end

mutual

/-- The names that hide methods of a date in what takes after a value, unless it takes after none. -/
def hiding? : Value → Option (List String)
  | .moment _ => some []
  | .record fields => (inherited? fields).map (Table.keys fields ++ ·)
  | _ => none

/-- The names that the copy of a record finds in what it takes after, unless that is no date. -/
def inherited? : List (String × Value) → Option (List String)
  | [] => none
  | (k, v) :: rest => if k = Value.prototypeKey then hiding? v else inherited? rest

end

/-- How the methods of a date fail, those hidden excepted: `toJSON` asks for a number first. -/
def dateFault? (hidden : List String) : Option Failure :=
  if "toJSON" ∈ hidden then none
  else if "valueOf" ∉ hidden then some (.foreign "TypeError" "this is not a Date object.")
  else if "toString" ∉ hidden then
    some (.foreign "TypeError"
      "Method Date.prototype.toString called on incompatible receiver [object Object]")
  else some (.foreign "TypeError" "Cannot convert object to primitive value")

mutual

/-- Why the copy of a value has no JSON text. -/
def fault? : Value → Option Failure
  | .record fields => ((hiding? (.record fields)).bind dateFault?).or (faultFields? fields)
  | _ => none

/-- Why the copy of one of these members has none. -/
def faultFields? : List (String × Value) → Option Failure
  | [] => none
  | (k, v) :: rest =>
    if k = Value.prototypeKey ∨ isSecretName k then faultFields? rest
    else (fault? v).or (faultFields? rest)

end

end Depot.Redaction
