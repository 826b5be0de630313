import Depot.Value.Basic
/-!
# Decoders

A decoder reads typed data out of a value and names everything that is wrong
with it, each issue with the path to its place. A value of the wrong type yields
no data; a failed check is an issue, but the data stays for the checks after it.
-/
namespace Depot

/-- Something wrong with a value: where, and what. -/
structure Issue where
  path : List String
  message : String
  deriving DecidableEq, Repr

/-- The names on the way to an issue, joined by points. -/
def Issue.place (i : Issue) : String := ".".intercalate i.path

def Issue.text (i : Issue) : String := i.place ++ ": " ++ i.message

/-- Data, unless it has the wrong type, and what is wrong with it. -/
structure Decoded (α : Type) where
  data? : Option α
  issues : List Issue

namespace Decoded
variable {α β : Type}

def ok (a : α) : Decoded α := ⟨some a, []⟩

def mismatch (message : String) : Decoded α := ⟨none, [⟨[], message⟩]⟩

def map (f : α → β) (d : Decoded α) : Decoded β := ⟨d.data?.map f, d.issues⟩

/-- Both parts, with the issues of the first before those of the second. -/
def both (f : Decoded (α → β)) (d : Decoded α) : Decoded β :=
  ⟨f.data?.bind fun g => d.data?.map g, f.issues ++ d.issues⟩

/-- The issues seen from one step further out. -/
def under (step : String) (d : Decoded α) : Decoded α :=
  ⟨d.data?, d.issues.map fun i => { i with path := step :: i.path }⟩

/-- The data of a value about which nothing is wrong. -/
def toExcept (d : Decoded α) : Except (List Issue) α :=
  match d.data?, d.issues with
  | some a, [] => .ok a
  | _, issues => .error issues

end Decoded

abbrev Decoder (α : Type) := Value → Decoded α

namespace Decoder
variable {α β : Type}

/-- The name of a value's type. -/
def typeName : Value → String
  | .absent => "undefined"
  | .null => "null"
  | .bool _ => "boolean"
  | .number x => if x.isNaN then "nan" else "number"
  | .text _ => "string"
  | .moment _ => "date"
  | .secret _ => "object"
  | .list _ => "array"
  | .record _ => "object"

/-- A value of the wrong type; an absent one was required. -/
def unexpected (expected : String) (v : Value) : Decoded α :=
  if v.isAbsent then .mismatch "Required"
  else .mismatch ("Expected " ++ expected ++ ", received " ++ typeName v)

def text : Decoder String
  | .text s => .ok s
  | v => unexpected "string" v

/-- A number; NaN is none. -/
def number : Decoder Float
  | .number x => if x.isNaN then unexpected "number" (.number x) else .ok x
  | v => unexpected "number" v

def bool : Decoder Bool
  | .bool b => .ok b
  | v => unexpected "boolean" v

def null : Decoder Unit
  | .null => .ok ()
  | v => unexpected "null" v

def map (f : α → β) (d : Decoder α) : Decoder β := fun v => (d v).map f

/-- Adds an issue if there is data and it fails the test. -/
def check (d : Decoder α) (test : α → Bool) (message : String) : Decoder α := fun v =>
  let r := d v
  match r.data? with
  | some a => if test a then r else ⟨some a, r.issues ++ [⟨[], message⟩]⟩
  | none => r

/-- What may be left out. -/
def optional (d : Decoder α) : Decoder (Option α) := fun v =>
  if v.isAbsent then .ok none else (d v).map some

/-- The items of a list from the `i`-th on. -/
def items (d : Decoder α) : Nat → List Value → Decoded (List α)
  | _, [] => .ok []
  | i, v :: rest =>
    (((d v).under (toString i)).map List.cons).both (items d (i + 1) rest)

def list (d : Decoder α) : Decoder (List α)
  | .list vs => items d 0 vs
  | v => unexpected "array" v

/-- The members of a record, without the one that records do not keep. -/
def members (d : Decoder α) : Fields → Decoded (Table α)
  | [] => .ok []
  | (k, v) :: rest =>
    let keep (a : α) (t : Table α) := if k = Value.prototypeKey then t else (k, a) :: t
    (((d v).under k).map keep).both (members d rest)

/-- A record whose members have any names. -/
def table (d : Decoder α) : Decoder (Table α)
  | .record fields => members d fields
  | v => unexpected "object" v

/-- A record, read by its members. -/
def record (read : Value → Decoded α) : Decoder α := fun v =>
  match v with
  | .record _ => read v
  | v => unexpected "object" v

/-- The member of a record that has the given name. -/
def field (name : String) (d : Decoder α) (v : Value) : Decoded α :=
  (d (v.member name)).under name

/-- What the first option comes to about which nothing is wrong; else `spoilt`, or else what the first
option comes to that has data. -/
def firstOf (v : Value) : Option (Decoded α) → List (Decoder α) → Decoded α
  | none, [] => .mismatch "Invalid input"
  | some spoilt, [] => spoilt
  | spoilt, d :: rest =>
    let r := d v
    if r.data?.isNone then firstOf v spoilt rest
    else if r.issues.isEmpty then r
    else firstOf v (spoilt.or (some r)) rest

/-- What one of the options accepts; those in front go first. -/
def union (options : List (Decoder α)) : Decoder α := fun v => firstOf v none options

/-- What both decoders accept, if their data can be merged. -/
def intersection {γ : Type} (merge : α → β → Option γ) (d : Decoder α) (e : Decoder β) :
    Decoder γ := fun v =>
  let left := d v
  let right := e v
  match left.data?, right.data? with
  | some a, some b =>
    match merge a b with
    | some c => ⟨some c, left.issues ++ right.issues⟩
    | none =>
      ⟨none, left.issues ++ right.issues ++ [⟨[], "Intersection results could not be merged"⟩]⟩
  | _, _ => ⟨none, left.issues ++ right.issues⟩

end Decoder
end Depot
