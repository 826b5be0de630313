import Depot.Decode.Basic
/-!
# JSON values

Any value that JSON has, at any depth. The decoder refers to itself, and it is unrolled as far as the
value is deep.
-/
namespace Depot
namespace Value

mutual

/-- How deep lists and records are nested in a value. -/
def depth : Value → Nat
  | .list items => depthOfItems items + 1
  | .record fields => depthOfFields fields + 1
  | _ => 0

def depthOfItems : List Value → Nat
  | [] => 0
  | v :: rest => max (depth v) (depthOfItems rest)

def depthOfFields : List (String × Value) → Nat
  | [] => 0
  | (_, v) :: rest => max (depth v) (depthOfFields rest)

end

end Value

namespace Decoder

/-- What a value of JSON can be, if `inner` decodes the values inside. -/
def jsonAround (inner : Decoder Value) : Decoder Value :=
  union [map .text text, map .number number, map .bool bool, map (fun _ => .null) null,
    map .list (list inner), map .record (table inner)]

/-- The decoder of JSON values, unrolled for fewer than `layers` layers. -/
def jsonWithin : Nat → Decoder Value
  | 0 => fun _ => .mismatch "Invalid input"
  | layers + 1 => jsonAround (jsonWithin layers)

/-- A value of JSON. -/
def json : Decoder Value := fun v => jsonWithin (v.depth + 1) v

end Decoder
end Depot
