import Depot.Http.Request
import Depot.Query.Basic
/-!
# Desks

The queries that a caller works on, by name. A name can be given to another
query later; whoever still holds the earlier one keeps it.
-/
namespace Depot

/-- A query on a desk, and where it is sent if it belongs to a base. -/
structure Sheet where
  query : Query
  home : Option Endpoint

structure Desk where
  /-- The settings under which queries are sent to their bases. -/
  settings : Option Settings
  /-- All sheets, in order of creation. -/
  sheets : List Sheet
  /-- The place of the sheet that a name stands for. -/
  names : Table Nat

namespace Desk

/-- What a caller does with the query of a name. -/
inductive Act where
  | create (base : Option String)
  | copy (target : String)
  | union (other : String)
  | edit (e : Query.Edit)

structure Move where
  name : String
  act : Act

def empty (settings : Option Settings) : Desk := ⟨settings, [], []⟩

/-- The query at a place as it stands. -/
def queryAt (d : Desk) (ref : Nat) : Query := (d.sheets[ref]?.map Sheet.query).getD Query.empty

/-- The sheet of a name, and its place. -/
def find (d : Desk) (name : String) : Outcome (Nat × Sheet) :=
  match (Table.get? name d.names).bind fun ref => d.sheets[ref]?.map (ref, ·) with
  | some found => .ok found
  | none => .error (.foreign "Error" ("there is no query named " ++ name))

/-- Gives a name to a new sheet. -/
def add (d : Desk) (name : String) (s : Sheet) : Desk :=
  { d with sheets := d.sheets ++ [s], names := Table.put name d.sheets.length d.names }

/-- Where the queries of a base are sent. -/
def home (d : Desk) (base : Option String) : Outcome (Option Endpoint) :=
  match base, d.settings with
  | some name, some settings => (Endpoint.ofBase settings name).map some
  | _, _ => .ok none

/-- Does something with a query, and shows the query that came of it. -/
def play (d : Desk) (m : Move) : Outcome (Query × Desk) := do
  match m.act with
  | .create base =>
    return (Query.empty, d.add m.name ⟨Query.empty, ← d.home base⟩)
  | .copy target =>
    let (_, sheet) ← d.find m.name
    return (sheet.query, d.add target sheet)
  | .union other =>
    let (ref, sheet) ← d.find m.name
    let (_, source) ← d.find other
    let query := sheet.query.union source.query
    return (query, { d with sheets := d.sheets.set ref { sheet with query := query } })
  | .edit e =>
    let (ref, sheet) ← d.find m.name
    let query := sheet.query.edit e
    return (query, { d with sheets := d.sheets.set ref { sheet with query := query } })

/-- Makes one move after another, up to the first that fails; those before it stay made. -/
def playAll (d : Desk) : List Move → Option Failure × Desk
  | [] => (none, d)
  | m :: rest =>
    match d.play m with
    | .ok (_, d) => playAll d rest
    | .error f => (some f, d)

end Desk
end Depot
