import Depot.Decode.Json
/-!
# Items

An item is a record of JSON with a key. It is decoded twice, as a record with any members and as one
with a key, and what comes of that is merged.
-/
namespace Depot
namespace Value

/-- Members that have the names of other ones are left to these; the rest follow them. -/
def addOthers (others : Fields) (fields : Fields) : Fields :=
  others.foldl (fun t e => if (Table.get? e.1 fields).isSome then t else Member.insert e.1 e.2 t)
    fields

mutual

/-- The value that two values have in common: equal ones are one, records are merged member by member,
and lists item by item. -/
def merge? : Value → Value → Option Value
  | .absent, .absent => some .absent
  | .null, .null => some .null
  | .bool a, .bool b => if a = b then some (.bool a) else none
  | .number x, .number y => if x == y then some (.number x) else none
  | .text s, .text t => if s = t then some (.text s) else none
  | .list vs, .list ws => (mergeItems? vs ws).map .list
  | .record fields, .record others =>
    (mergeMembers? fields others).map fun merged => .record (addOthers others merged)
  | _, _ => none

def mergeItems? : List Value → List Value → Option (List Value)
  | [], [] => some []
  | v :: vs, w :: ws => (merge? v w).bind fun u => (mergeItems? vs ws).map (u :: ·)
  | _, _ => none

/-- The members of a record, those merged that the other has as well. -/
def mergeMembers? : List (String × Value) → Fields → Option Fields
  | [], _ => some []
  | (k, v) :: rest, others =>
    (match Table.get? k others with
      | some w => merge? v w
      | none => some v).bind fun u => (mergeMembers? rest others).map ((k, u) :: ·)

end

/-- The record that two records have in common, with the members that only one of them has. -/
def mergeRecords? (fields others : Fields) : Option Fields :=
  (mergeMembers? fields others).map (addOthers others)

end Value

/-- A stored record; its key is one of its members. -/
structure Item where
  key : String
  fields : Fields

namespace Item
open Decoder

/-- The two halves of an item: a record of JSON, and a record with a key. -/
def decode : Decoder Item :=
  intersection (fun fields key => (Value.mergeRecords? fields [("key", .text key)]).map (Item.mk key))
    (table json) (record (field "key" text))

def toValue (i : Item) : Value := .record i.fields

end Item
end Depot
