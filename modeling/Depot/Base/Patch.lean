import Depot.Value.Basic
/-!
# Patches

A patch collects the partial changes of one item by kind. A field that is
changed twice in the same way keeps the last value, at the place of the first.
-/
namespace Depot

structure Patch where
  sets : Table Value
  increments : Table Float
  appends : Table Value
  prepends : Table Value
  /-- Each field once, in order of first deletion. -/
  deletes : List String

namespace Patch

def empty : Patch := ⟨[], [], [], [], []⟩

/-- One change of a field. -/
inductive Change where
  | set (field : String) (value : Value)
  | increment (field : String) (amount : Float)
  | append (field : String) (value : Value)
  | prepend (field : String) (value : Value)
  | delete (field : String)

def change (p : Patch) : Change → Patch
  | .set field value => { p with sets := Table.put field value p.sets }
  | .increment field amount => { p with increments := Table.put field amount p.increments }
  | .append field value => { p with appends := Table.put field value p.appends }
  | .prepend field value => { p with prepends := Table.put field value p.prepends }
  | .delete field =>
    if p.deletes.contains field then p else { p with deletes := p.deletes ++ [field] }

def changeAll (p : Patch) (changes : List Change) : Patch := changes.foldl change p

def isEmpty (p : Patch) : Bool :=
  p.sets.isEmpty && p.increments.isEmpty && p.appends.isEmpty && p.prepends.isEmpty &&
    p.deletes.isEmpty

/-- The changes of one kind as a record, if there are any. -/
private def bucket (name : String) (fields : Table Value) : Fields :=
  if fields.isEmpty then [] else [(name, .ofFields fields)]

/-- The body of an update; kinds of change that do not occur are left out. -/
def payload (p : Patch) : Fields :=
  bucket "set" p.sets ++ bucket "increment" (p.increments.map fun (k, x) => (k, .number x)) ++
    bucket "append" p.appends ++ bucket "prepend" p.prepends ++
    if p.deletes.isEmpty then [] else [("delete", .list (p.deletes.map .text))]

end Patch
end Depot
