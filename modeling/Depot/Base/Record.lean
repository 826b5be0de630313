import Depot.Failure.Precondition
import Depot.Number.Exact
/-!
# Records to store

A record has a value, may have a key, and may expire. What is stored is the
value with the key and the time of expiry among its members.
-/
namespace Depot

/-- The member that holds the time of expiry, in seconds since the start of 1970. -/
def expiresField : String := "__expires"

structure Record where
  /-- The key; a record without one gets its key from the service. -/
  key : Value
  value : Fields
  /-- Seconds from the time of storing; it goes before `expiresAt`. -/
  expiresIn : Option Float
  /-- The time of expiry; the inner `none` is a date that does not exist. -/
  expiresAt : Option (Option Instant)

/-- A key is a text that is not empty. -/
def validKey (key : Value) : Outcome String :=
  match key with
  | .text s => if s.isEmpty then .error Precondition.keyIsText.failure else .ok s
  | _ => .error Precondition.keyIsText.failure

namespace Record

/-- The second in which an instant lies; a date that does not exist has none. -/
def unixSeconds (t : Option Instant) : Float :=
  match t with
  | some t => Number.ofInt t.unixSeconds
  | none => 0.0 / 0.0

/-- When the record expires, seen from the time of storing, which may be no date. -/
def expiry? (r : Record) (now : Option Instant) : Option Float :=
  match r.expiresIn, r.expiresAt with
  | some seconds, _ => some (unixSeconds now + seconds)
  | none, some t => some (unixSeconds t)
  | none, none => none

/-- What is stored for a record: its value, then its key, then its time of expiry. -/
def serialize (r : Record) (now : Option Instant) : Outcome Fields := do
  let withKey ← match r.key with
    | .absent => .ok r.value
    | key => (validKey key).map fun k => Member.insert "key" (.text k) r.value
  return match r.expiry? now with
    | some seconds => Member.insert expiresField (.number seconds) withKey
    | none => withKey

end Record
end Depot
