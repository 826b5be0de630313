import Depot.Instant
import Depot.Secret
import Depot.Table
/-!
# Values

The data that callers hand over and services answer with: JSON values, and
beside them instants, secrets and the absent value, which a caller can put
anywhere and which the JSON text leaves out.
-/
namespace Depot

inductive Value where
  | absent
  | null
  | bool (b : Bool)
  | number (x : Float)
  | text (s : String)
  /-- A point in time; `none` is a date that does not exist. -/
  | moment (t : Option Instant)
  | secret (s : Secret)
  | list (items : List Value)
  | record (fields : List (String × Value))
  deriving Inhabited

/-- The members of a record, in their order. -/
abbrev Fields := Table Value

namespace Value

/-- The name of a record member that assignment does not keep. -/
def prototypeKey : String := "__proto__"

/-- A natural number as a value. -/
def nat (n : Nat) : Value := .number (Float.ofNat n)

/-- A record built member by member. -/
def ofFields (fields : List (String × Value)) : Value := .record (Member.ofEntries fields)

/-- An optional value; `none` is the absent one. -/
def optional : Option Value → Value
  | some v => v
  | none => .absent

def isAbsent : Value → Bool
  | .absent => true
  | _ => false

/-- A member of a record; what is not there is absent. -/
def member (v : Value) (k : String) : Value :=
  match v with
  | .record fields => optional (Table.get? k fields)
  | _ => .absent

end Value
end Depot
