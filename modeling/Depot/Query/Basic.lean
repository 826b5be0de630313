import Depot.Failure.Precondition
import Depot.Query.Filter
/-!
# Queries

A query is a disjunction of groups of filters. Filters enter the current group,
which is always the last one on the wire, even when it is empty; other queries
and ready-made groups come before it.
-/
namespace Depot

structure Query where
  /-- The groups in front of the current one. -/
  groups : List Fields
  /-- The filters of the current group by wire key, in order of first entry. -/
  current : Table Value
  pageLimit : Option Float
  cursor : Option String
  descending : Bool

namespace Query

def empty : Query := ⟨[], [], none, none, false⟩

/-- Sets a filter of the current group; the last value for a field and comparator counts. -/
def set (q : Query) (comparator : Comparator) (field : String) (value : Value) : Query :=
  { q with current := Table.put (filterKey field comparator) value q.current }

/-- Both ends belong to the range. -/
def range (q : Query) (field : String) (first last : Value) : Query :=
  q.set .range field (.list [first, last])

/-- The current group as a record, without the member that assignment does not keep. -/
def currentGroup (q : Query) : Fields :=
  Member.ofEntries (q.current.filter (·.1 ≠ Value.prototypeKey))

/-- All groups, the current one last. -/
def allGroups (q : Query) : List Fields := q.groups ++ [q.currentGroup]

/-- Adds all groups of another query in front of the current group. -/
def union (q other : Query) : Query := { q with groups := q.groups ++ other.allGroups }

/-- Adds a ready-made group in front of the current one. -/
def append (q : Query) (group : Fields) : Query := { q with groups := q.groups ++ [group] }

def limit (q : Query) (n : Float) : Query := { q with pageLimit := some n }

/-- Sets the cursor to start from. -/
def last (q : Query) (cursor : String) : Query := { q with cursor := some cursor }

def sort (q : Query) (descending : Bool) : Query := { q with descending := descending }

/-- The body of a request for one page. -/
def payload (q : Query) : Fields :=
  [("limit", .number (q.pageLimit.getD (Float.ofNat defaultPageLimit))),
   ("query", .list (q.allGroups.map .record)),
   ("last", .optional (q.cursor.map .text)),
   ("sort", if q.descending then .text "desc" else .absent)]

/-- A step of building a query that involves no other query. -/
inductive Edit where
  | set (comparator : Comparator) (field : String) (value : Value)
  | range (field : String) (first last : Value)
  | append (group : Fields)
  | limit (n : Float)
  | last (cursor : String)
  | sort (descending : Bool)

def edit (q : Query) : Edit → Query
  | .set comparator field value => q.set comparator field value
  | .range field first last => q.range field first last
  | .append group => q.append group
  | .limit n => q.limit n
  | .last cursor => q.last cursor
  | .sort descending => q.sort descending

end Query
end Depot
